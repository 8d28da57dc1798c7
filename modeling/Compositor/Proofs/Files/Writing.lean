import Mathlib.Data.List.Basic
import Compositor.Files.Tree

/-! # Writing files

A path is resolved by a walk from directory to directory, and a file is written at the place
where the walk ends.  Such a place is no directory, so all walks that came to an end before
come to the same end afterwards: what was there is still there.  Files of one directory with
different names do not touch each other either, whether they can be written or not.

`FileTree.Grows` is a run of such writes in a directory.
-/

namespace Compositor

/-! ## Paths of files in a directory -/

namespace Path

/-- The name of a file: one component that leads down. -/
structure IsPlain (name : String) : Prop where
  ne_empty : name ≠ ""
  noSlash : '/' ∉ name.toList
  ne_dot : name ≠ "."
  ne_dots : name ≠ ".."

variable {base name : String}

theorem piecesFrom_append (piece cs ds : List Char) :
    piecesFrom piece (cs ++ '/' :: ds) = piecesFrom piece cs ++ piecesFrom [] ds := by
  induction cs generalizing piece with
  | nil => simp [piecesFrom]
  | cons c cs inductionHypothesis =>
    by_cases slash : c = '/'
    · subst slash
      simp [piecesFrom, inductionHypothesis]
    · simp [piecesFrom, inductionHypothesis]

theorem piecesFrom_of_noSlash {cs : List Char} (noSlash : '/' ∉ cs) (piece : List Char) :
    piecesFrom piece cs = [piece.reverse ++ cs] := by
  induction cs generalizing piece with
  | nil => simp [piecesFrom]
  | cons c cs inductionHypothesis =>
    rw [List.mem_cons, not_or] at noSlash
    have slash : c ≠ '/' := Ne.symm noSlash.1
    simp [piecesFrom, inductionHypothesis noSlash.2]

theorem IsPlain.pieces (plain : IsPlain name) : pieces name = [name] := by
  rw [Path.pieces, piecesFrom_of_noSlash plain.noSlash, List.map_singleton, List.reverse_nil,
    List.nil_append, String.ofList_toList]

theorem isAbsolute_eq (p : String) : isAbsolute p = (p.toList.head? == some '/') := by
  rw [isAbsolute]
  cases p.toList with
  | nil => rfl
  | cons c cs =>
    by_cases slash : c = '/'
    · rw [slash]
      rfl
    · simp [slash]

theorem IsPlain.isAbsolute (plain : IsPlain name) : isAbsolute name = false := by
  rw [isAbsolute_eq, beq_eq_false_iff_ne]
  exact fun starts => plain.noSlash (List.mem_of_head? starts)

/-- The last piece of a path below a directory is the name, and the others lead to the
    directory. -/
theorem exists_pieces_join (plain : IsPlain name) (base : String) :
    ∃ before, pieces (join base name) = before ++ [name] ∧
      (before.filter fun c => c != "" && c != ".") = components base := by
  have last : (piecesFrom [] name.toList).map String.ofList = [name] := plain.pieces
  rw [join, plain.isAbsolute, Bool.false_or]
  by_cases empty : base.isEmpty = true
  · rw [if_pos empty, plain.pieces, String.isEmpty_iff.mp empty]
    exact ⟨[], rfl, rfl⟩
  rw [if_neg empty]
  by_cases slash : endsWithSlash base = true
  · obtain ⟨front, split⟩ : ∃ front, base.toList = front ++ ['/'] :=
      List.getLast?_eq_some_iff.mp (beq_iff_eq.mp slash)
    refine ⟨(piecesFrom [] front).map String.ofList, ?_, ?_⟩
    · rw [if_pos slash, pieces, String.toList_append, split, List.append_assoc,
        List.singleton_append, piecesFrom_append, List.map_append, last]
    · rw [components, pieces, split, piecesFrom_append, List.map_append, List.filter_append]
      exact (List.append_nil _).symm
  · refine ⟨pieces base, ?_, rfl⟩
    have text : (base ++ "/" ++ name).toList = base.toList ++ '/' :: name.toList := by
      rw [String.toList_append, String.toList_append, List.append_assoc]
      rfl
    rw [if_neg slash, pieces, text, piecesFrom_append, List.map_append, last, pieces]

theorem components_join (plain : IsPlain name) (base : String) :
    components (join base name) = components base ++ [name] := by
  obtain ⟨before, pieces, rest⟩ := exists_pieces_join plain base
  have keep : (name != "" && name != ".") = true := by simp [plain.ne_empty, plain.ne_dot]
  rw [components, pieces, List.filter_append, rest, List.filter_cons, if_pos keep, List.filter_nil]

theorem namesDirectory_join (plain : IsPlain name) (base : String) :
    namesDirectory (join base name) = false := by
  obtain ⟨before, pieces, -⟩ := exists_pieces_join plain base
  rw [namesDirectory, pieces, List.getLast?_concat]
  simp [plain.ne_empty, plain.ne_dot]

theorem isEmpty_join (plain : IsPlain name) (base : String) : (join base name).isEmpty = false := by
  rw [Bool.eq_false_iff]
  intro empty
  have none : components (join base name) = [] := by rw [String.isEmpty_iff.mp empty]; rfl
  rw [components_join plain] at none
  exact List.append_ne_nil_of_right_ne_nil _ (List.cons_ne_nil _ _) none

theorem isAbsolute_join (plain : IsPlain name) (base : String) :
    isAbsolute (join base name) = isAbsolute base := by
  by_cases empty : base.isEmpty = true
  · rw [join, empty, Bool.or_true, if_pos rfl, plain.isAbsolute, String.isEmpty_iff.mp empty]
    rfl
  · have start : base.toList ≠ [] := fun none => empty (String.isEmpty_iff.mpr (String.toList_inj.mp none))
    obtain ⟨rest, text⟩ : ∃ rest, (join base name).toList = base.toList ++ rest := by
      rw [join, plain.isAbsolute, Bool.false_or, if_neg empty]
      split
      · exact ⟨_, String.toList_append ..⟩
      · exact ⟨_, by rw [String.append_assoc, String.toList_append]⟩
    rw [isAbsolute_eq, isAbsolute_eq, text, List.head?_append_of_ne_nil _ start]

end Path

namespace FileTree

variable {t t' : FileTree} {place q : List String} {path other base name : String}
  {bytes : List UInt8} {e : FileEntry}

/-! ## Writing at a place -/

theorem entry?_nil (t : FileTree) : t.entry? [] = some .directory := rfl

/-- What is put at a place that is no directory is there, and all else stays as it is. -/
theorem entry?_set (free : t.entry? place ≠ some .directory) (e : FileEntry) (q : List String) :
    FileTree.entry? (t.set place e) q = if q = place then some e else t.entry? q := by
  have below : place.isEmpty = false := by
    cases place with
    | nil => exact absurd t.entry?_nil free
    | cons => rfl
  by_cases here : q = place
  · subst here
    have none : (t.entries.filter fun x => x.1 != q).find? (fun x => x.1 == q) = none := by
      rw [List.find?_eq_none]
      intro x mem same
      have apart := (List.mem_filter.mp mem).2
      rw [bne, same] at apart
      cases apart
    rw [if_pos rfl, entry?, below, set, List.find?_append, none]
    simp
  · have kept : (t.entries.filter fun x => x.1 != place).find? (fun x => x.1 == q) =
        t.entries.find? fun x => x.1 == q := by
      rw [List.find?_filter]
      congr 1
      funext x
      by_cases same : x.1 = q
      · simp [same, here]
      · simp [same]
    have apart : (place == q) = false := beq_eq_false_iff_ne.mpr (Ne.symm here)
    rw [if_neg here, entry?, entry?, set, List.find?_append, kept]
    simp [apart]

/-! ## Walks -/

theorem walk_append (t : FileTree) (start names more : List String) :
    t.walk start (names ++ more) = t.walk start names >>= fun place => t.walk place more := by
  induction names generalizing start with
  | nil => rfl
  | cons name names inductionHypothesis =>
    simp only [List.cons_append, walk]
    split <;> try rfl
    split <;> try rfl
    split <;> exact inductionHypothesis _

theorem walk_cons_eq_ok {start names : List String} : t.walk start (name :: names) = .ok q ↔
    t.entry? start = some .directory ∧ ¬ longestName < name.utf8ByteSize ∧
      t.walk (if name = ".." then start.dropLast else start ++ [name]) names = .ok q := by
  rw [walk]
  cases entry : t.entry? start with
  | none => simp
  | some e =>
    cases e with
    | file bytes => simp
    | directory =>
      by_cases long : longestName < name.utf8ByteSize
      · simp [long]
      · simp only [long, if_false, not_false_eq_true, true_and]
        split <;> rfl

/-- A walk goes through directories only, so it does not meet what is written. -/
theorem walk_set (free : t.entry? place ≠ some .directory) {start names : List String}
    (walked : t.walk start names = .ok q) :
    (t.set place (.file bytes)).walk start names = .ok q := by
  induction names generalizing start with
  | nil => exact walked
  | cons name names inductionHypothesis =>
    obtain ⟨entry, short, walked⟩ := walk_cons_eq_ok.mp walked
    have apart : start ≠ place := by
      rintro rfl
      exact free entry
    refine walk_cons_eq_ok.mpr ⟨?_, short, inductionHypothesis walked⟩
    rw [entry?_set free, if_neg apart, entry]

/-! ## Resolved paths -/

/-- The place that a path starts at. -/
def startOf (path : String) : List String :=
  if Path.isAbsolute path then [] else currentDirectory

theorem resolve_eq_ok : t.resolve path = .ok place ↔
    pathFault? path = none ∧ path.isEmpty = false ∧
      t.walk (startOf path) (Path.components path) = .ok place ∧
      ∀ bytes, t.entry? place = some (.file bytes) → Path.namesDirectory path = false := by
  rw [resolve, ← startOf]
  cases pathFault? path with
  | some fault => simp
  | none =>
    by_cases empty : path.isEmpty = true
    · simp [empty]
    · cases walked : t.walk (startOf path) (Path.components path) with
      | error e => simp [empty, bind, Except.bind, walked]
      | ok found =>
        simp only [empty, walked, bind, Except.bind, pure, Except.pure, Except.ok.injEq, true_and,
          Bool.false_eq_true, if_false]
        constructor
        · intro resolved
          split at resolved
          · rename_i bytes entry
            split at resolved
            · cases resolved
            · rename_i file
              cases resolved
              exact ⟨rfl, fun _ _ => by simpa using file⟩
          · rename_i noFile
            cases resolved
            exact ⟨rfl, fun bytes entry => absurd entry (noFile bytes)⟩
        · rintro ⟨rfl, file⟩
          split
          · rename_i bytes entry
            rw [file bytes entry]
            rfl
          · rfl

theorem lookup_eq_ok : t.lookup path = .ok e ↔
    ∃ place, t.resolve path = .ok place ∧ t.entry? place = some e := by
  rw [lookup]
  cases resolved : t.resolve path with
  | error fault => simp [bind, Except.bind]
  | ok place =>
    cases entry : t.entry? place <;> simp [bind, Except.bind, pure, Except.pure, entry, throw,
      throwThe, MonadExceptOf.throw]

theorem resolve_set (free : t.entry? place ≠ some .directory) (resolved : t.resolve path = .ok q)
    (file : q = place → Path.namesDirectory path = false) :
    (t.set place (.file bytes)).resolve path = .ok q := by
  obtain ⟨sound, named, walked, unmarked⟩ := resolve_eq_ok.mp resolved
  refine resolve_eq_ok.mpr ⟨sound, named, walk_set free walked, fun bytes entry => ?_⟩
  rw [entry?_set free] at entry
  split at entry
  · rename_i here
    exact file here
  · exact unmarked bytes entry

theorem present_iff : t.present path = true ↔ ∃ e, t.lookup path = .ok e := by
  rw [present]
  cases t.lookup path <;> simp

/-- What can be looked up can still be looked up, and it is the same unless it was written. -/
theorem lookup_set (free : t.entry? place ≠ some .directory) (resolved : t.resolve path = .ok q)
    (entry : t.entry? q = some e) :
    (t.set place (.file bytes)).lookup path = .ok (if q = place then .file bytes else e) := by
  refine lookup_eq_ok.mpr ⟨q, resolve_set free resolved fun here => ?_, ?_⟩
  · cases e with
    | directory => exact absurd (here ▸ entry) free
    | file old => exact (resolve_eq_ok.mp resolved).2.2.2 old entry
  · rw [entry?_set free]
    split <;> simp [entry]

/-! ## Writing at a path -/

/-- The place at which a path can be written. -/
def target (t : FileTree) (path : String) : Except FileError (List String) := do
  let place ← t.resolve path
  if t.entry? place = some .directory ∨ Path.namesDirectory path = true then throw .isADirectory
  else pure place

theorem write_eq (t : FileTree) (path : String) (bytes : List UInt8) :
    t.write path bytes = (t.target path).map fun place => t.set place (.file bytes) := by
  rw [write, target]
  cases t.resolve path with
  | error fault => rfl
  | ok place =>
    simp only [bind, Except.bind]
    rcases t.entry? place with _ | _ | _ <;> cases Path.namesDirectory path <;> rfl

theorem target_eq_ok : t.target path = .ok place ↔ t.resolve path = .ok place ∧
    t.entry? place ≠ some .directory ∧ Path.namesDirectory path = false := by
  rw [target]
  cases resolved : t.resolve path with
  | error fault => simp [bind, Except.bind]
  | ok found =>
    simp only [bind, Except.bind, Except.ok.injEq]
    by_cases bad : t.entry? found = some .directory ∨ Path.namesDirectory path = true
    · rw [if_pos bad]
      refine iff_of_false (fun thrown => by cases thrown) ?_
      rintro ⟨rfl, free, file⟩
      exact bad.elim free (by simp [file])
    · rw [if_neg bad]
      rw [not_or, Bool.not_eq_true] at bad
      constructor
      · rintro ⟨⟩
        exact ⟨rfl, bad⟩
      · rintro ⟨rfl, -⟩
        rfl

theorem write_eq_ok : t.write path bytes = .ok t' ↔
    ∃ place, t.target path = .ok place ∧ t' = t.set place (.file bytes) := by
  rw [write_eq]
  cases t.target path <;> simp [Except.map, eq_comm]

theorem lookup_write_self (written : t.write path bytes = .ok t') :
    t'.lookup path = .ok (.file bytes) := by
  obtain ⟨place, target, rfl⟩ := write_eq_ok.mp written
  obtain ⟨resolved, free, file⟩ := target_eq_ok.mp target
  refine lookup_eq_ok.mpr ⟨place, resolve_set free resolved fun _ => file, ?_⟩
  rw [entry?_set free, if_pos rfl]

/-- What is present stays present. -/
theorem present_write (written : t.write path bytes = .ok t') (present : t.present other = true) :
    t'.present other = true := by
  obtain ⟨place, target, rfl⟩ := write_eq_ok.mp written
  obtain ⟨e, found⟩ := present_iff.mp present
  obtain ⟨q, resolved, entry⟩ := lookup_eq_ok.mp found
  exact present_iff.mpr ⟨_, lookup_set (target_eq_ok.mp target).2.1 resolved entry⟩

/-! ## Files of one directory -/

theorem resolve_join (plain : Path.IsPlain name) (t : FileTree) (base : String) :
    t.resolve (Path.join base name) =
      match pathFault? (Path.join base name) with
      | some fault => .error fault
      | none => t.walk (startOf base) (Path.components base) >>= fun place => t.walk place [name] := by
  have start : (if Path.isAbsolute (Path.join base name) then [] else currentDirectory) =
      startOf base := by
    rw [Path.isAbsolute_join plain, startOf]
  rw [resolve, start, ← walk_append]
  cases pathFault? (Path.join base name) with
  | some fault => rfl
  | none =>
    simp only [Path.isEmpty_join plain, Path.components_join plain, Path.namesDirectory_join plain,
      Bool.false_eq_true, if_false]
    cases t.walk (startOf base) (Path.components base ++ [name]) with
    | error fault => rfl
    | ok place =>
      simp only [bind, Except.bind]
      split <;> rfl

/-- The place at which a file of a directory can be written. -/
def targetIn (t : FileTree) (place : List String) (name : String) :
    Except FileError (List String) := do
  let place ← t.walk place [name]
  if t.entry? place = some .directory then throw .isADirectory else pure place

theorem target_join (plain : Path.IsPlain name) (t : FileTree) (base : String) :
    t.target (Path.join base name) =
      match pathFault? (Path.join base name) with
      | some fault => .error fault
      | none => t.walk (startOf base) (Path.components base) >>= fun place =>
          t.targetIn place name := by
  rw [target, resolve_join plain]
  cases pathFault? (Path.join base name) with
  | some fault => rfl
  | none =>
    simp only [Path.namesDirectory_join plain, Bool.false_eq_true, or_false]
    cases t.walk (startOf base) (Path.components base) <;> rfl

theorem targetIn_eq (directory : t.entry? place = some .directory) (plain : Path.IsPlain name) :
    t.targetIn place name =
      if longestName < name.utf8ByteSize then .error .nameTooLong
      else if t.entry? (place ++ [name]) = some .directory then .error .isADirectory
      else .ok (place ++ [name]) := by
  rw [targetIn, walk, directory]
  simp only [if_neg plain.ne_dots, walk]
  split <;> rfl

theorem targetIn_eq_ok (plain : Path.IsPlain name) (written : t.targetIn place name = .ok q) :
    t.entry? place = some .directory ∧ q = place ++ [name] ∧ t.entry? q ≠ some .directory := by
  cases walked : t.walk place [name] with
  | error fault =>
    rw [targetIn, walked] at written
    cases written
  | ok found =>
    have directory := (walk_cons_eq_ok.mp walked).1
    rw [targetIn_eq directory plain] at written
    split at written
    · cases written
    split at written
    · cases written
    rename_i free
    cases written
    exact ⟨directory, rfl, free⟩

variable {name' : String}

/-- Where a file of a directory can be written does not depend on the other files of the
    directory, nor on what it was itself. -/
theorem targetIn_set (plain : Path.IsPlain name) (plain' : Path.IsPlain name')
    (written : t.targetIn place name = .ok q) :
    (t.set q (.file bytes)).targetIn place name' = t.targetIn place name' := by
  obtain ⟨directory, rfl, free⟩ := targetIn_eq_ok plain written
  have kept : FileTree.entry? (t.set (place ++ [name]) (.file bytes)) place = some .directory := by
    rw [entry?_set free, if_neg (by simp), directory]
  have taken : FileTree.entry? (t.set (place ++ [name]) (.file bytes)) (place ++ [name']) =
      some .directory ↔ t.entry? (place ++ [name']) = some .directory := by
    rw [entry?_set free]
    split
    · rename_i same
      rw [same]
      exact iff_of_false (fun file => by cases file) free
    · rfl
  rw [targetIn_eq kept plain', targetIn_eq directory plain']
  simp only [taken]

/-- A file of a directory is written below the place of that directory. -/
theorem target_join_eq_ok (plain : Path.IsPlain name)
    (target : t.target (Path.join base name) = .ok q) :
    ∃ place, t.walk (startOf base) (Path.components base) = .ok place ∧
      t.targetIn place name = .ok (place ++ [name]) ∧ q = place ++ [name] ∧
      t.entry? (place ++ [name]) ≠ some .directory := by
  rw [target_join plain] at target
  split at target
  · cases target
  cases walked : t.walk (startOf base) (Path.components base) with
  | error fault =>
    rw [walked] at target
    cases target
  | ok place =>
    rw [walked] at target
    obtain ⟨-, rfl, free⟩ := targetIn_eq_ok plain target
    exact ⟨place, rfl, target, rfl, free⟩

/-- Files of one directory with the same place have the same name. -/
theorem target_join_inj (plain : Path.IsPlain name) (plain' : Path.IsPlain name')
    (target : t.target (Path.join base name) = .ok q)
    (target' : t.target (Path.join base name') = .ok q) : name = name' := by
  obtain ⟨place, walked, -, rfl, -⟩ := target_join_eq_ok plain target
  obtain ⟨place', walked', -, same, -⟩ := target_join_eq_ok plain' target'
  cases walked.symm.trans walked'
  exact List.singleton_inj.mp (List.append_cancel_left same)

theorem write_join_eq_ok (plain : Path.IsPlain name)
    (written : t.write (Path.join base name) bytes = .ok t') :
    ∃ place, t.walk (startOf base) (Path.components base) = .ok place ∧
      t.targetIn place name = .ok (place ++ [name]) ∧
      t' = t.set (place ++ [name]) (.file bytes) ∧ t.entry? (place ++ [name]) ≠ some .directory := by
  obtain ⟨q, target, rfl⟩ := write_eq_ok.mp written
  obtain ⟨place, walked, inside, rfl, free⟩ := target_join_eq_ok plain target
  exact ⟨place, walked, inside, rfl, free⟩

theorem target_join_write (plain : Path.IsPlain name) (plain' : Path.IsPlain name')
    (written : t.write (Path.join base name) bytes = .ok t') :
    t'.target (Path.join base name') = t.target (Path.join base name') := by
  obtain ⟨place, walked, target, rfl, free⟩ := write_join_eq_ok plain written
  rw [target_join plain', target_join plain', walk_set free walked, walked]
  split
  · rfl
  · exact targetIn_set plain plain' target

/-- Writing a file of a directory leaves the other ones as they are. -/
theorem lookup_join_write (plain : Path.IsPlain name) (plain' : Path.IsPlain name')
    (apart : name' ≠ name) (written : t.write (Path.join base name) bytes = .ok t')
    (found : t.lookup (Path.join base name') = .ok e) :
    t'.lookup (Path.join base name') = .ok e := by
  obtain ⟨place, walked, -, rfl, free⟩ := write_join_eq_ok plain written
  obtain ⟨q, resolved, entry⟩ := lookup_eq_ok.mp found
  have below : q = place ++ [name'] := by
    rw [resolve_join plain', walked] at resolved
    split at resolved
    · cases resolved
    obtain ⟨-, -, here⟩ := walk_cons_eq_ok.mp resolved
    rw [if_neg plain'.ne_dots, walk, Except.ok.injEq] at here
    exact here.symm
  rw [lookup_set free resolved entry, if_neg (by simpa [below] using apart)]

/-! ## Runs of writes -/

/-- Files of a directory are written, one after another. -/
inductive Grows (base : String) (names : String → Prop) : FileTree → FileTree → Prop where
  | refl (t : FileTree) : Grows base names t t
  | write {t t' t'' : FileTree} {name : String} {bytes : List UInt8} (plain : Path.IsPlain name)
      (among : names name) (written : t.write (Path.join base name) bytes = .ok t')
      (rest : Grows base names t' t'') : Grows base names t t''

namespace Grows

variable {names names' : String → Prop} {t'' : FileTree}

theorem trans (first : Grows base names t t') (second : Grows base names t' t'') :
    Grows base names t t'' := by
  induction first with
  | refl => exact second
  | write plain among written _ inductionHypothesis =>
    exact .write plain among written (inductionHypothesis second)

theorem mono (grows : Grows base names t t') (more : ∀ name, names name → names' name) :
    Grows base names' t t' := by
  induction grows with
  | refl => exact .refl _
  | write plain among written _ inductionHypothesis =>
    exact .write plain (more _ among) written inductionHypothesis

theorem present (grows : Grows base names t t') (present : t.present path = true) :
    t'.present path = true := by
  induction grows with
  | refl => exact present
  | write _ _ written _ inductionHypothesis =>
    exact inductionHypothesis (present_write written present)

/-- A file whose name is none of those that are written stays as it is. -/
theorem lookup (grows : Grows base names t t') (plain : Path.IsPlain name) (other : ¬ names name)
    (found : t.lookup (Path.join base name) = .ok e) : t'.lookup (Path.join base name) = .ok e := by
  induction grows with
  | refl => exact found
  | write plain' among written _ inductionHypothesis =>
    refine inductionHypothesis (lookup_join_write plain' plain ?_ written found)
    rintro rfl
    exact other among

/-- Whether and where files of the directory can be written stays the same. -/
theorem target (grows : Grows base names t t') (plain : Path.IsPlain name) :
    t'.target (Path.join base name) = t.target (Path.join base name) := by
  induction grows with
  | refl => rfl
  | write plain' _ written _ inductionHypothesis =>
    rw [inductionHypothesis, target_join_write plain' plain written]

end Grows

end FileTree

end Compositor
