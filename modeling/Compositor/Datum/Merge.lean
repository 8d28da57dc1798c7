import Compositor.Datum.Basic

/-! # Merging records

Data from several sources are merged in order of precedence: what a later source
says replaces what an earlier one said, except that two records are merged member by
member.
-/

namespace Compositor.Datum

/-- Sets a member of a record; what it is set to is given what was there. -/
def setMember (name : Option String) (change : Option Datum → Datum) :
    List (Option String × Datum) → List (Option String × Datum)
  | [] => [(name, change none)]
  | m :: ms =>
    if m.1 == name then (name, change (some m.2)) :: ms else m :: setMember name change ms

mutual
/-- The first value, with what the second one says in its place. -/
def merge (a : Datum) : Datum → Datum
  | record later =>
    match a with
    | record members => record (mergeMembers members later)
    | _ => record later
  | d => d
termination_by structural d => d

/-- The members with those merged in that a later source gives. -/
def mergeMembers (members : List (Option String × Datum)) :
    List (Option String × Datum) → List (Option String × Datum)
  | [] => members
  | m :: ms => mergeMembers (mergeMember members m) ms
termination_by structural ms => ms

/-- The members with one merged in. -/
def mergeMember (members : List (Option String × Datum)) :
    Option String × Datum → List (Option String × Datum)
  | (name, d) =>
    setMember name
      (fun
        | some before => merge before d
        | none => d)
      members
termination_by structural m => m
end

end Compositor.Datum
