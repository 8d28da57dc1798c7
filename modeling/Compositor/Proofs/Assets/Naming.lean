import Compositor.Proofs.Assets.Placing
import Compositor.Proofs.Traffic.Turns

/-! # Where staging writes

Staging writes files for inline subtitles, for embedded assets and for downloads.  All that it does
to the files is a list of writes (`Stager.Written`), each of which is for one part of the scene: it
puts what that part names in a file with a name for that part (`Stager.Write.Of`).  No two of them
are for the same part, and no two names are the same.  The files are direct children of the working
directory, since no name leads anywhere else.

This is so for every run of staging, also for one that fails, with every network and in every order
of the downloads.
-/

namespace Compositor

open FileTree (Grows startOf)

/-! ## What a run of writes changes -/

namespace FileTree.Grows

variable {base : String} {names : String → Prop} {t t' : FileTree} {q : List String}

/-- The directory is where it was, and all that has changed is directly below it. -/
theorem changes (grows : Grows base names t t') (changed : t'.entry? q ≠ t.entry? q) :
    ∃ place name, t.walk (startOf base) (Path.components base) = .ok place ∧
      q = place ++ [name] ∧ names name := by
  induction grows with
  | refl => exact absurd rfl changed
  | @write t t' t'' name bytes plain among written rest inductionHypothesis =>
    obtain ⟨place, walked, -, rfl, free⟩ := write_join_eq_ok plain written
    by_cases later : t''.entry? q = FileTree.entry? (t.set (place ++ [name]) (.file bytes)) q
    · rw [later, entry?_set free] at changed
      split at changed
      · next here => exact ⟨place, name, walked, here, among⟩
      · exact absurd rfl changed
    · obtain ⟨place', name', walked', here, among'⟩ := inductionHypothesis later
      cases (walk_set free walked).symm.trans walked'
      exact ⟨place, name', walked, here, among'⟩

end FileTree.Grows

namespace Stager

variable {σ : Type} {net : Network σ} {workDir : String} {scene : Scene} {s s' : Stager σ}

/-! ## Names -/

/-- What a file is written for: inline subtitles, or the source at a position. -/
inductive Origin where
  | subtitles
  | source (index : Nat)
deriving DecidableEq

/-- The names of files that are written for a part of a scene.  The last segment of a URL may be
    anything. -/
inductive Origin.Names (scene : Scene) : Origin → String → Prop where
  | subtitles {text : String} (given : scene.subtitles.map (·.source) = some (.inline text)) :
    Names scene .subtitles (subtitleName text)
  | data {index : Nat} {payload ext : String} {bytes : List UInt8}
    (given : scene.mediaSources[index]? = some (.data payload))
    (decoded : Embedded.decode payload = .ok (bytes, ext)) :
    Names scene (.source index) (assetName index ext)
  | url {index : Nat} {u : String} (given : scene.mediaSources[index]? = some (.url u))
    (segment : Option String) :
    Names scene (.source index) (assetName index (segmentExtension segment))

/-- The file name has the form that files for this have. -/
def Origin.Fits : Origin → String → Prop
  | subtitles, name => name = "subtitles.srt" ∨ name = "subtitles.ass"
  | source index, name => ∃ ext, IsExtension ext ∧ name = assetName index ext

namespace Origin

variable {origin origin' : Origin} {name : String}

theorem Names.fits (names : origin.Names scene name) : origin.Fits name := by
  cases names with
  | subtitles =>
    rw [Fits, subtitleName]
    split
    · exact .inr rfl
    · exact .inl rfl
  | data _ decoded => exact ⟨_, Embedded.isExtension_decode decoded, rfl⟩
  | url _ segment => exact ⟨_, isExtension_segmentExtension segment, rfl⟩

theorem Fits.isPlain (fits : origin.Fits name) : Path.IsPlain name := by
  cases origin with
  | subtitles => rcases fits with rfl | rfl <;> exact ⟨by decide, by decide, by decide, by decide⟩
  | source index =>
    obtain ⟨ext, extension, rfl⟩ := fits
    exact assetName_isPlain index extension.noSlash

theorem Fits.unique (fits : origin.Fits name) (fits' : origin'.Fits name) : origin = origin' := by
  have first (index : Nat) (ext : String) : (assetName index ext).toList.head? = some 'a' := by
    rw [assetName_toList]
    rfl
  have other {index : Nat} (subtitles : Fits .subtitles name) : ¬ Fits (.source index) name := by
    rintro ⟨ext, -, rfl⟩
    rcases subtitles with same | same <;>
      (have start := first index ext; rw [same] at start; cases start)
  cases origin with
  | subtitles =>
    cases origin' with
    | subtitles => rfl
    | source => exact absurd fits' (other fits)
  | source index =>
    cases origin' with
    | subtitles => exact absurd fits (other fits')
    | source index' =>
      obtain ⟨ext, -, rfl⟩ := fits
      obtain ⟨ext', -, same⟩ := fits'
      rw [index_of_assetName same]

end Origin

/-! ## Writes -/

/-- A file that is written: what for, under which name, and with which bytes. -/
structure Write where
  origin : Origin
  name : String
  bytes : List UInt8

/-- The file is named for a part of the scene and holds what that part names: the text of the
    subtitles, the bytes that are embedded, or the body of an answer from the URL. -/
inductive Write.Of (net : Network σ) (scene : Scene) : Write → Prop where
  | subtitles {text : String} (given : scene.subtitles.map (·.source) = some (.inline text)) :
    Of net scene ⟨.subtitles, subtitleName text, Text.utf8 text⟩
  | data {index : Nat} {payload ext : String} {bytes : List UInt8}
    (given : scene.mediaSources[index]? = some (.data payload))
    (decoded : Embedded.decode payload = .ok (bytes, ext)) :
    Of net scene ⟨.source index, assetName index ext, bytes⟩
  | url {index : Nat} {text : String} {u : Url} {status : Nat} {bytes : List UInt8} {world : σ}
    (given : scene.mediaSources[index]? = some (.url text))
    (parsed : Url.parse? (Text.trim text) = some u)
    (answered : (net.get u world).1 = .answer status (some bytes))
    (good : 200 ≤ status ∧ status < 300) :
    Of net scene ⟨.source index, assetName index (segmentExtension u.lastSegment?), bytes⟩

theorem Write.Of.names {w : Write} (of : w.Of net scene) : w.origin.Names scene w.name := by
  cases of with
  | subtitles given =>
    dsimp only
    exact .subtitles given
  | data given decoded => exact .data given decoded
  | url given => exact .url given _

/-- Files are written in a directory, one after the other. -/
inductive Written (workDir : String) : List Write → FileTree → FileTree → Prop where
  | nil (t : FileTree) : Written workDir [] t t
  | cons {w : Write} {ws : List Write} {t t' t'' : FileTree}
    (written : t.write (Path.join workDir w.name) w.bytes = .ok t') (rest : Written workDir ws t' t'') :
    Written workDir (w :: ws) t t''

namespace Written

variable {ws ws' : List Write} {t t' t'' : FileTree}

theorem append (first : Written workDir ws t t') (second : Written workDir ws' t' t'') :
    Written workDir (ws ++ ws') t t'' := by
  induction first with
  | nil => exact second
  | cons written _ inductionHypothesis => exact .cons written (inductionHypothesis second)

theorem grows (names : String → Prop) (written : Written workDir ws t t')
    (among : ∀ w ∈ ws, Path.IsPlain w.name ∧ names w.name) : Grows workDir names t t' := by
  induction written with
  | nil => exact .refl _
  | cons written _ inductionHypothesis =>
    obtain ⟨plain, named⟩ := among _ List.mem_cons_self
    exact .write plain named written
      (inductionHypothesis fun w mem => among w (List.mem_cons_of_mem _ mem))

end Written

/-- Files are written for some parts of a scene, and for none of them twice. -/
structure Puts (net : Network σ) (workDir : String) (scene : Scene) (part : Origin → Prop)
    (ws : List Write) (t t' : FileTree) : Prop where
  written : Written workDir ws t t'
  of : ∀ w ∈ ws, w.Of net scene
  part : ∀ w ∈ ws, part w.origin
  apart : (ws.map Write.origin).Nodup

namespace Puts

variable {part part' : Origin → Prop} {w : Write} {ws ws' : List Write} {t t' t'' : FileTree}

theorem none (t : FileTree) : Puts net workDir scene part [] t t where
  written := .nil t
  of _ mem := absurd mem List.not_mem_nil
  part _ mem := absurd mem List.not_mem_nil
  apart := List.nodup_nil

theorem one (written : t.write (Path.join workDir w.name) w.bytes = .ok t') (of : w.Of net scene)
    (here : part w.origin) : Puts net workDir scene part [w] t t' where
  written := .cons written (.nil t')
  of _ mem := List.mem_singleton.mp mem ▸ of
  part _ mem := List.mem_singleton.mp mem ▸ here
  apart := List.nodup_singleton _

theorem mono (part' : Origin → Prop) (puts : Puts net workDir scene part ws t t') (more : ∀ o, part o → part' o) :
    Puts net workDir scene part' ws t t' :=
  ⟨puts.written, puts.of, fun w mem => more _ (puts.part w mem), puts.apart⟩

theorem append (first : Puts net workDir scene part ws t t')
    (second : Puts net workDir scene part' ws' t' t'') (other : ∀ o, part o → ¬ part' o) :
    Puts net workDir scene (fun o => part o ∨ part' o) (ws ++ ws') t t'' where
  written := first.written.append second.written
  of w mem := (List.mem_append.mp mem).elim (first.of w) (second.of w)
  part w mem := (List.mem_append.mp mem).imp (first.part w) (second.part w)
  apart := by
    rw [List.map_append, List.nodup_append]
    refine ⟨first.apart, second.apart, ?_⟩
    rintro _ mem _ mem' rfl
    obtain ⟨w, among, rfl⟩ := List.mem_map.mp mem
    obtain ⟨w', among', same⟩ := List.mem_map.mp mem'
    exact other _ (first.part w among) (same ▸ second.part w' among')

/-- No two of the files have the same name. -/
theorem nodup_names (puts : Puts net workDir scene part ws t t') : (ws.map Write.name).Nodup := by
  refine List.pairwise_map.mpr ((List.pairwise_map.mp puts.apart).imp_of_mem ?_)
  intro w w' mem mem' apart same
  have fits := (puts.of w mem).names.fits
  rw [same] at fits
  exact apart (fits.unique (puts.of w' mem').names.fits)

end Puts

/-! ## Parts of a scene -/

namespace Origin

/-- The part is an embedded source. -/
def IsData (scene : Scene) (origin : Origin) : Prop :=
  ∃ index payload, origin = .source index ∧ scene.mediaSources[index]? = some (.data payload)

/-- The part is a source from a URL. -/
def IsUrl (scene : Scene) (origin : Origin) : Prop :=
  ∃ index u, origin = .source index ∧ scene.mediaSources[index]? = some (.url u)

/-- The part has to become a file. -/
inductive Needed (scene : Scene) : Origin → Prop where
  | subtitles {text : String} (given : scene.subtitles.map (·.source) = some (.inline text))
    (named : Text.allBlank text = false) : Needed scene .subtitles
  | data {index : Nat} {payload : String}
    (given : scene.mediaSources[index]? = some (.data payload))
    (named : Text.allBlank payload = false) : Needed scene (.source index)
  | url {index : Nat} {u : String} (given : scene.mediaSources[index]? = some (.url u))
    (named : Text.allBlank u = false) : Needed scene (.source index)

end Origin

/-! ## Runs of writes -/

variable {sources : List MediaSource} {xs : List Settled} {index : Nat} {d : Download}
  {ds : List Download}

theorem write_of_writeFile {path : String} {bytes : List UInt8}
    (written : writeFile path bytes s = (.ok (), s')) : s.files.write path bytes = .ok s'.files := by
  rw [writeFile] at written
  split at written
  · rename_i result
    cases written
    exact result
  · cases written

theorem files_of_writeFile {path : String} {bytes : List UInt8} {e : AssetError}
    (failed : writeFile path bytes s = (.error e, s')) : s'.files = s.files := by
  rw [writeFile] at failed
  split at failed <;> cases failed
  rfl

theorem writeFile_puts (part : Origin → Prop) (workDir : String) (w : Write)
    (of : w.Of net scene) (here : part w.origin) (s : Stager σ) :
    ∃ ws, Puts net workDir scene part ws s.files
        (writeFile (Path.join workDir w.name) w.bytes s).2.files ∧
      ∀ s', writeFile (Path.join workDir w.name) w.bytes s = (.ok (), s') →
        w.origin ∈ ws.map Write.origin := by
  cases written : writeFile (Path.join workDir w.name) w.bytes s with
  | mk result s' =>
    cases result with
    | error e =>
      refine ⟨[], ?_, fun s' written => by cases written⟩
      rw [files_of_writeFile written]
      exact .none _
    | ok =>
      exact ⟨[w], .one (write_of_writeFile written) of here, fun _ _ => List.mem_singleton.mpr rfl⟩

/-- A source that is settled is written to a file if it is embedded. -/
theorem settle_puts (net : Network σ) (scene : Scene) (workDir : String) (index : Nat)
    (source : MediaSource) (s : Stager σ)
    (given : ∀ payload, source = .data payload → scene.mediaSources[index]? = some (.data payload)) :
    ∃ ws, Puts net workDir scene (fun o => o.IsData scene ∧ o = .source index) ws s.files
        (settle workDir index source s).2.files ∧
      ∀ x, (settle workDir index source s).1 = .ok x → ∀ payload, source = .data payload →
        Text.allBlank payload = false → Origin.source index ∈ ws.map Write.origin := by
  cases source with
  | path p =>
    refine ⟨[], ?_, fun x _ payload same => by cases same⟩
    rw [settle]
    split <;> exact .none _
  | url u =>
    refine ⟨[], ?_, fun x _ payload same => by cases same⟩
    rw [settle]
    split <;> exact .none _
  | data payload =>
    rw [settle]
    split
    · rename_i blank
      refine ⟨[], .none _, fun x _ _ same named => ?_⟩
      cases same
      cases blank.symm.trans named
    split
    · exact ⟨[], .none _, fun x settled => by cases settled⟩
    rename_i bytes ext decoded
    have of : Write.Of net scene ⟨.source index, assetName index ext, bytes⟩ :=
      .data (given payload rfl) decoded
    obtain ⟨ws, puts, whole⟩ := writeFile_puts (fun o => o.IsData scene ∧ o = .source index)
      workDir _ of ⟨⟨index, payload, rfl, given payload rfl⟩, rfl⟩ s
    refine ⟨ws, ?_, fun x settled _ _ _ => ?_⟩
    · dsimp only at puts ⊢
      split <;> (rename_i written; rw [written] at puts; exact puts)
    · dsimp only at settled
      split at settled
      · rename_i written
        exact whole _ written
      · cases settled

/-- Sources that are settled are written to files if they are embedded. -/
theorem settleFrom_puts (net : Network σ) (scene : Scene) (workDir : String) (index : Nat)
    (s : Stager σ) (sources : List MediaSource)
    (given : ∀ i payload, sources[i]? = some (.data payload) →
      scene.mediaSources[index + i]? = some (.data payload)) :
    ∃ ws, Puts net workDir scene (fun o => o.IsData scene ∧ ∃ i, index ≤ i ∧ o = .source i) ws
        s.files (settleFrom workDir index s sources).2.files ∧
      ∀ xs, (settleFrom workDir index s sources).1 = .ok xs → ∀ i payload,
        sources[i]? = some (.data payload) → Text.allBlank payload = false →
          Origin.source (index + i) ∈ ws.map Write.origin := by
  induction sources generalizing index s with
  | nil =>
    refine ⟨[], .none _, fun xs _ i payload here => ?_⟩
    rw [List.getElem?_nil] at here
    cases here
  | cons source sources inductionHypothesis =>
    obtain ⟨ws, first, whole⟩ := settle_puts net scene workDir index source s
      fun payload same => given 0 payload (congrArg some same)
    have here : Puts net workDir scene (fun o => o.IsData scene ∧ ∃ i, index ≤ i ∧ o = .source i) ws
        s.files (settle workDir index source s).2.files :=
      first.mono _ fun o both => ⟨both.1, index, Nat.le_refl _, both.2⟩
    rw [settleFrom]
    split
    · rename_i e s' refused
      rw [refused] at here
      exact ⟨ws, here, fun xs settled => by cases settled⟩
    rename_i x s' settled
    rw [settled] at first whole
    obtain ⟨ws', others, whole'⟩ := inductionHypothesis (index + 1) s' fun i payload there => by
      rw [Nat.add_assoc, Nat.add_comm 1 i]
      exact given (i + 1) payload there
    -- What comes later is for later positions.
    have both := first.append others fun o here later => by
      obtain ⟨-, i, late, there⟩ := later
      cases here.2.symm.trans there
      exact Nat.not_succ_le_self index late
    replace both := both.mono (fun o => o.IsData scene ∧ ∃ i, index ≤ i ∧ o = .source i)
      fun o part => part.elim (fun here => ⟨here.1, index, Nat.le_refl _, here.2⟩)
        fun later => ⟨later.1, later.2.imp fun i there => ⟨Nat.le_of_succ_le there.1, there.2⟩⟩
    have all : ∀ i payload, (∃ xs, (settleFrom workDir (index + 1) s' sources).1 = .ok xs) →
        (source :: sources)[i]? = some (.data payload) → Text.allBlank payload = false →
          Origin.source (index + i) ∈ (ws ++ ws').map Write.origin := by
      rintro i payload ⟨xs, settled⟩ there named
      rw [List.map_append, List.mem_append]
      cases i with
      | zero => exact .inl (whole x rfl payload (Option.some.inj there) named)
      | succ i =>
        refine .inr ?_
        rw [show index + (i + 1) = index + 1 + i by omega]
        exact whole' xs settled i payload there named
    refine ⟨ws ++ ws', ?_, fun xs settled i payload => all i payload ?_⟩
    · split <;> (rename_i others; rw [others] at both; exact both)
    · revert settled
      split
      · exact fun settled => by cases settled
      · rename_i others
        exact fun _ => ⟨_, congrArg Prod.fst others⟩

/-- What is left to download comes from a URL. -/
theorem exists_url_of_mem_downloadsFrom {t : FileTree}
    (settled : SettledFrom workDir t index sources xs) (mem : d ∈ downloadsFrom index xs) :
    ∃ i u, sources[i]? = some (.url u) ∧ d = ⟨index + i, Text.trim u⟩ := by
  induction settled with
  | nil => cases mem
  | @cons index source x sources xs first others inductionHypothesis =>
    have later (mem : d ∈ downloadsFrom (index + 1) xs) :
        ∃ i u, (source :: sources)[i]? = some (.url u) ∧ d = ⟨index + i, Text.trim u⟩ := by
      obtain ⟨i, u, given, rfl⟩ := inductionHypothesis mem
      exact ⟨i + 1, u, given, by rw [Nat.add_assoc, Nat.add_comm 1 i]⟩
    cases first with
    | url =>
      rcases List.mem_cons.mp mem with rfl | mem
      · exact ⟨0, _, rfl, rfl⟩
      · exact later mem
    | blank | path | data => exact later mem

/-- What comes from a URL is left to download. -/
theorem mem_downloadsFrom_of_url {t : FileTree} {i : Nat} {u : String}
    (settled : SettledFrom workDir t index sources xs) (given : sources[i]? = some (.url u))
    (named : Text.allBlank u = false) : ⟨index + i, Text.trim u⟩ ∈ downloadsFrom index xs := by
  induction settled generalizing i with
  | nil =>
    rw [List.getElem?_nil] at given
    cases given
  | @cons index source x sources xs first others inductionHypothesis =>
    cases i with
    | zero =>
      cases Option.some.inj given
      cases first with
      | blank empty => cases named.symm.trans empty
      | url => exact List.mem_cons_self
    | succ i =>
      have later := inductionHypothesis given
      rw [show index + 1 + i = index + (i + 1) by omega] at later
      cases first with
      | url => exact List.mem_cons_of_mem _ later
      | blank | path | data => exact later

/-- A download that has a value has put the body of an answer in its file, and one that has none
    has changed no file. -/
theorem download_cases (net : Network σ) (workDir : String) (d : Download) (s : Stager σ) :
    ((download net workDir d s).2.files = s.files ∧
        ∀ x, (download net workDir d s).1 ≠ .value x) ∨
      ∃ u status world bytes, Url.parse? d.url = some u ∧
        (net.get u world).1 = .answer status (some bytes) ∧ (200 ≤ status ∧ status < 300) ∧
        s.files.write (Download.path workDir d) bytes = .ok (download net workDir d s).2.files := by
  have same := fetch_files net d.url s
  rw [download]
  cases got : fetch net d.url s with
  | mk result s₁ =>
    rw [got] at same
    cases result with
    | error e => exact .inl ⟨same, fun x value => by cases value⟩
    | ok bytes =>
      obtain ⟨u, status, world, parsed, answered, good⟩ :=
        answer_of_fetch (congrArg Prod.fst got)
      dsimp only at same ⊢
      cases written : writeFile (Download.path workDir d) bytes s₁ with
      | mk result s₂ =>
        cases result with
        | error e =>
          exact .inl ⟨(files_of_writeFile written).trans same, fun x value => by cases value⟩
        | ok =>
          refine .inr ⟨u, status, world, bytes, parsed, answered, good, ?_⟩
          rw [← same]
          exact write_of_writeFile written

/-- Downloads that end one after the other write files for the sources from URLs that they are
    for. -/
theorem ran_puts {done : List (Nat × ItemEnd Downloaded)}
    (given : ∀ d ∈ ds, ∃ u, scene.mediaSources[d.index]? = some (.url u) ∧ d.url = Text.trim u)
    (distinct : (ds.map Download.index).Nodup)
    (ran : Pool.Ran (download net workDir) ds done s s') (once : (done.map Prod.fst).Nodup) :
    ∃ ws, Puts net workDir scene
        (fun o => ∃ i ∈ done.map Prod.fst, ∃ d, ds[i]? = some d ∧ o = .source d.index) ws
        s.files s'.files ∧
      ∀ i x d, (i, .value x) ∈ done → ds[i]? = some d →
        Origin.source d.index ∈ ws.map Write.origin := by
  induction ran with
  | nil => exact ⟨[], .none _, fun i x d mem => absurd mem List.not_mem_nil⟩
  | @cons i d done s s' item rest inductionHypothesis =>
    obtain ⟨fresh, once⟩ := List.nodup_cons.mp once
    obtain ⟨ws, later, whole⟩ := inductionHypothesis once
    rcases download_cases net workDir d s with
      ⟨same, none⟩ | ⟨u, status, world, bytes, parsed, answered, good, written⟩
    · rw [same] at later
      refine ⟨ws, later.mono _ fun o part => part.imp fun j there =>
        ⟨List.mem_cons_of_mem _ there.1, there.2⟩, fun j x d' mem there => ?_⟩
      rcases List.mem_cons.mp mem with here | mem
      · exact absurd (congrArg Prod.snd here).symm (none x)
      · exact whole j x d' mem there
    · obtain ⟨text, source, same⟩ := given d (List.mem_of_getElem? item)
      rw [same] at parsed
      let w : Write := ⟨.source d.index, assetName d.index (segmentExtension u.lastSegment?), bytes⟩
      have path : Download.path workDir d = Path.join workDir w.name := by
        rw [Download.path, urlExtension_eq, same, parsed, Option.bind_some]
      rw [path] at written
      have first : Puts net workDir scene (· = .source d.index) [w] s.files _ :=
        .one written (.url source parsed answered good) rfl
      -- The other downloads are for other sources, since this one is not made again.
      have both := first.append later fun o here there => by
        obtain ⟨j, mem, d', item', there⟩ := there
        have index : d.index = d'.index := Origin.source.inj (here.symm.trans there)
        have again : i = j := by
          refine (List.getElem?_inj ?_ distinct).mp ?_
          · rw [List.length_map]
            exact (List.getElem?_eq_some_iff.mp item).1
          · rw [List.getElem?_map, List.getElem?_map, item, item', Option.map_some,
              Option.map_some, index]
        exact fresh (again ▸ mem)
      refine ⟨w :: ws, both.mono _ fun o part => part.elim ?_ ?_, fun j x d' mem there => ?_⟩
      · exact fun here => ⟨i, List.mem_cons_self, d, item, here⟩
      · exact fun there => there.imp fun j there => ⟨List.mem_cons_of_mem _ there.1, there.2⟩
      · rw [List.map_cons]
        rcases List.mem_cons.mp mem with here | mem
        · obtain rfl := congrArg Prod.fst here
          cases item.symm.trans there
          exact List.mem_cons_self
        · exact List.mem_cons_of_mem _ (whole j x d' mem there)

/-- The sources keep their positions when subtitles become a file, since the file is the last
    source. -/
theorem getElem?_stageSubtitles {scene' : Scene} {source : MediaSource}
    (written : stageSubtitles workDir scene s = (.ok scene', s')) (other : ∀ p, source ≠ .path p) :
    scene'.mediaSources[index]? = some source ↔ scene.mediaSources[index]? = some source := by
  rcases stageSubtitles_cases written with ⟨rfl, -⟩ | ⟨before, text, subtitles, inline, -, rfl, -⟩
  · exact .rfl
  · have sources : (scene.withSubtitleFile (Path.join workDir (subtitleName text))).mediaSources =
        scene.mediaSources ++ [.path (Path.join workDir (subtitleName text))] := by
      simp only [Scene.mediaSources, Scene.subtitleSource?, Scene.withSubtitleFile, subtitles, inline,
        SubtitleSource.media?, Option.map_some, Option.bind_some, Option.toList_some,
        Option.toList_none, List.append_nil]
    rw [sources, List.getElem?_append]
    split
    · exact .rfl
    · rename_i beyond
      rw [List.getElem?_eq_none (Nat.le_of_not_lt beyond)]
      refine ⟨fun here => ?_, fun here => by cases here⟩
      exact absurd (List.mem_singleton.mp (List.mem_of_getElem? here)).symm (fun same => other _ same.symm)

/-- Inline subtitles are written to a file unless they are blank. -/
theorem stageSubtitles_puts (net : Network σ) (workDir : String) (scene : Scene) (s : Stager σ) :
    ∃ ws, Puts net workDir scene (· = .subtitles) ws s.files
        (stageSubtitles workDir scene s).2.files ∧
      ∀ scene', (stageSubtitles workDir scene s).1 = .ok scene' → ∀ text,
        scene.subtitles.map (·.source) = some (.inline text) → Text.allBlank text = false →
          Origin.subtitles ∈ ws.map Write.origin := by
  rw [stageSubtitles]
  split
  · rename_i text _ _ _ _ _ given
    have inline : scene.subtitles.map (·.source) = some (.inline text) := by rw [given]; rfl
    split
    · rename_i blank
      refine ⟨[], .none _, fun _ _ text' given' named => ?_⟩
      cases inline.symm.trans given'
      cases blank.symm.trans named
    have of : Write.Of net scene ⟨.subtitles, subtitleName text, Text.utf8 text⟩ := .subtitles inline
    obtain ⟨ws, puts, whole⟩ := writeFile_puts (· = .subtitles) workDir _ of rfl s
    refine ⟨ws, ?_, fun _ staged _ _ _ => ?_⟩
    · dsimp only at puts ⊢
      split <;> (rename_i written; rw [written] at puts; exact puts)
    · dsimp only at staged whole
      split at staged
      · rename_i written
        exact whole _ written
      · cases staged
  · rename_i other
    refine ⟨[], .none _, fun _ _ text given _ => ?_⟩
    obtain ⟨subtitles, here, inline⟩ := Option.map_eq_some_iff.mp given
    cases subtitles with
    | mk source =>
      cases inline
      exact absurd here (other text _ _ _ _ _)

/-- Before the downloads, the inline subtitles and the embedded sources are written. -/
theorem prepare_puts (net : Network σ) (workDir : String) (scene : Scene) (s : Stager σ) :
    ∃ ws, Puts net workDir scene (fun o => o = .subtitles ∨ o.IsData scene) ws
        (createDirectory workDir s).2.files (prepare workDir scene s).2.files ∧
      ∀ prepared, (prepare workDir scene s).1 = .ok prepared → ∀ origin : Origin,
        origin.Needed scene → ¬ origin.IsUrl scene → origin ∈ ws.map Write.origin := by
  rw [prepare]
  split
  · rename_i created
    rw [created]
    exact ⟨[], .none _, fun _ prepared => by cases prepared⟩
  rename_i s₁ created
  rw [created]
  obtain ⟨ws, subtitles, whole⟩ := stageSubtitles_puts net workDir scene s₁
  split
  · rename_i written
    rw [written] at subtitles
    exact ⟨ws, subtitles.mono _ fun _ => .inl, fun _ prepared => by cases prepared⟩
  rename_i scene₁ s₂ written
  rw [written] at subtitles whole
  obtain ⟨ws', data, whole'⟩ := settleFrom_puts net scene workDir 0 s₂ scene₁.mediaSources
    fun i payload given => by
      rw [Nat.zero_add]
      exact (getElem?_stageSubtitles written (by simp)).mp given
  have both := (subtitles.append data fun o here there => by
    obtain ⟨⟨index, payload, same, -⟩, -⟩ := there
    cases here.symm.trans same).mono (fun o => o = .subtitles ∨ o.IsData scene)
      fun o part => part.imp_right And.left
  have all : (∃ xs, (settleFrom workDir 0 s₂ scene₁.mediaSources).1 = .ok xs) →
      ∀ origin : Origin, origin.Needed scene → ¬ origin.IsUrl scene →
        origin ∈ (ws ++ ws').map Write.origin := by
    rintro ⟨xs, settled⟩ origin needed other
    rw [List.map_append, List.mem_append]
    cases needed with
    | subtitles given named => exact .inl (whole scene₁ rfl _ given named)
    | @data index payload given named =>
      have there := (getElem?_stageSubtitles written (by simp)).mpr given
      have mem := whole' xs settled index payload there named
      rw [Nat.zero_add] at mem
      exact .inr mem
    | url given => exact absurd ⟨_, _, rfl, given⟩ other
  refine ⟨ws ++ ws', ?_, fun prepared settled => all ?_⟩
  · split <;> (rename_i settled; rw [settled] at both; exact both)
  · revert settled
    split
    · exact fun settled => by cases settled
    · rename_i settled
      exact fun _ => ⟨_, congrArg Prod.fst settled⟩

variable {scene₁ : Scene}

/-- Each download that is left is for a source from a URL. -/
theorem exists_url_of_prepare (prepared : prepare workDir scene s = (.ok (scene₁, xs), s'))
    (mem : d ∈ downloadsFrom 0 xs) :
    ∃ u, scene.mediaSources[d.index]? = some (.url u) ∧ d.url = Text.trim u := by
  obtain ⟨_, _, -, written, settled⟩ := prepare_eq_ok prepared
  obtain ⟨i, u, given, rfl⟩ := exists_url_of_mem_downloadsFrom (settleFrom_settled settled).1 mem
  refine ⟨u, ?_, rfl⟩
  rw [Nat.zero_add]
  exact (getElem?_stageSubtitles written (by simp)).mp given

/-- For each source from a URL that has to become a file a download is left. -/
theorem exists_download_of_prepare (prepared : prepare workDir scene s = (.ok (scene₁, xs), s'))
    {origin : Origin} (needed : origin.Needed scene) (remote : origin.IsUrl scene) :
    ∃ d ∈ downloadsFrom 0 xs, origin = .source d.index := by
  obtain ⟨index, u, rfl, given⟩ := remote
  cases needed with
  | data given' => cases given.symm.trans given'
  | url given' named =>
    obtain ⟨_, _, -, written, settled⟩ := prepare_eq_ok prepared
    have there := (getElem?_stageSubtitles written (by simp)).mpr given'
    have mem := mem_downloadsFrom_of_url (settleFrom_settled settled).1 there named
    rw [Nat.zero_add] at mem
    exact ⟨_, mem, rfl⟩

/-- All that staging does to the files, once the directory is there, is a list of writes, each for
    a part of the scene of its own.  If staging returns, there is a write for each part that has to
    become a file. -/
theorem stages_puts {result : Except AssetError Scene}
    (stages : Stages net workDir scene s result s') :
    ∃ ws, Puts net workDir scene (fun _ => True) ws (createDirectory workDir s).2.files s'.files ∧
      ∀ staged, result = .ok staged → ∀ origin : Origin, origin.Needed scene →
        origin ∈ ws.map Write.origin := by
  obtain ⟨ws, before, whole⟩ := prepare_puts net workDir scene s
  cases stages with
  | refused prepared =>
    rw [prepared] at before
    exact ⟨ws, before.mono _ fun _ _ => trivial, fun _ staged => by cases staged⟩
  | @settled scene₁ xs s₁ prepared empty =>
    rw [prepared] at before whole
    refine ⟨ws, before.mono _ fun _ _ => trivial, fun _ _ origin needed => ?_⟩
    refine whole _ rfl origin needed fun remote => ?_
    obtain ⟨d, mem, -⟩ := exists_download_of_prepare prepared needed remote
    exact List.not_mem_nil (empty ▸ mem)
  | @downloaded scene₁ xs s₁ s₂ p r prepared _ batched =>
    obtain ⟨done, ran, each, values⟩ := batched.ran
    have remote (d : Download) (mem : d ∈ downloadsFrom 0 xs) := exists_url_of_prepare prepared mem
    obtain ⟨ws', after, made⟩ := ran_puts remote (nodup_downloadsFrom 0 xs) ran
      (each.nodup_iff.mpr List.nodup_range)
    rw [prepared] at before whole
    have all := before.append after fun o here there => by
      obtain ⟨i, -, d, item, rfl⟩ := there
      obtain ⟨u, given, -⟩ := remote d (List.mem_of_getElem? item)
      rcases here with here | ⟨index, payload, here, given'⟩
      · cases here
      · cases here
        cases given.symm.trans given'
    refine ⟨ws ++ ws', all.mono _ fun _ _ => trivial, fun staged returned origin needed => ?_⟩
    rw [List.map_append, List.mem_append]
    by_cases there : origin.IsUrl scene
    · -- No download has failed, so that of the source has written its file.
      obtain ⟨d, mem, rfl⟩ := exists_download_of_prepare prepared needed there
      obtain ⟨i, item⟩ := List.mem_iff_getElem?.mp mem
      have inside : i ∈ done.map Prod.fst :=
        each.mem_iff.mpr (List.mem_range.mpr (List.getElem?_eq_some_iff.mp item).1)
      obtain ⟨⟨_, e⟩, ended, rfl⟩ := List.mem_map.mp inside
      cases r with
      | error e => cases returned
      | ok downloaded =>
        obtain ⟨x, rfl⟩ := values downloaded rfl _ e ended
        exact .inr (made _ x d ended item)
    · exact .inl (whole _ rfl origin needed there)

/-- Staging writes direct children of the working directory only, one file for each part of the
    scene that has to become one.  Their names tell what they were written for, so that nothing is
    written in the place of something else. -/
theorem stages_named {result : Except AssetError Scene}
    (stages : Stages net workDir scene s result s') :
    ∃ writes : List Write,
      Written workDir writes (createDirectory workDir s).2.files s'.files ∧
      (∀ w ∈ writes, w.Of net scene ∧ w.origin.Names scene w.name ∧ w.origin.Fits w.name ∧
        Path.IsPlain w.name) ∧
      (writes.map Write.origin).Nodup ∧ (writes.map Write.name).Nodup ∧
      (∀ staged, result = .ok staged → ∀ origin : Origin, origin.Needed scene →
        origin ∈ writes.map Write.origin) ∧
      (∀ place, s'.files.entry? place ≠ (createDirectory workDir s).2.files.entry? place →
        ∃ directory, ∃ w ∈ writes,
          (createDirectory workDir s).2.files.walk (startOf workDir) (Path.components workDir) =
              .ok directory ∧
            place = directory ++ [w.name]) ∧
      ∀ (origin : Origin) (name : String), origin.Names scene name →
        origin.Fits name ∧ Path.IsPlain name ∧
          ∀ origin' : Origin, origin'.Names scene name → origin' = origin := by
  obtain ⟨ws, puts, whole⟩ := stages_puts stages
  have grows := puts.written.grows (fun name => ∃ w ∈ ws, w.name = name) fun w mem =>
    ⟨(puts.of w mem).names.fits.isPlain, w, mem, rfl⟩
  refine ⟨ws, puts.written, fun w mem => ?_, puts.apart, puts.nodup_names, whole, ?_, ?_⟩
  · have names := (puts.of w mem).names
    exact ⟨puts.of w mem, names, names.fits, names.fits.isPlain⟩
  · intro place changed
    obtain ⟨directory, name, walked, here, w, mem, rfl⟩ := grows.changes changed
    exact ⟨directory, w, mem, walked, here⟩
  · exact fun origin name names =>
      ⟨names.fits, names.fits.isPlain, fun _ names' => names'.fits.unique names.fits⟩

/-- A scene with sources of all kinds.  The subtitles, the embedded source and the source from a URL
    become files of their own. -/
theorem stages_named_assorted :
    ∃ writes : List Write,
      Written "w" writes (createDirectory "w" idle).2.files (stage echo "w" assorted idle).2.files ∧
      (writes.map Write.name).Nodup ∧
      ∀ origin ∈ [Origin.subtitles, .source 0, .source 1], origin ∈ writes.map Write.origin := by
  have stages := (stage_stages idle_ready echo "w" assorted).1
  obtain ⟨writes, written, -, -, names, all, -⟩ := stages_named stages
  refine ⟨writes, written, names, fun origin mem => all _ stage_assorted origin ?_⟩
  have cases : origin = .subtitles ∨ origin = .source 0 ∨ origin = .source 1 := by simpa using mem
  rcases cases with rfl | rfl | rfl
  · exact @Origin.Needed.subtitles _ "1" rfl (by decide)
  · exact @Origin.Needed.data _ 0 "aGk=" rfl (by decide)
  · exact @Origin.Needed.url _ 1 " http://[::1]/c.png " rfl (by decide)

end Stager

end Compositor
