import Compositor.Assets.Staging
import Compositor.Proofs.Assets.Downloads
import Compositor.Proofs.Scene.Assigning

/-! # Every asset in its place

A scene that comes back from staging differs in its sources only.  What is blank stays as it is,
a local file is there, and each other source has become the path of a file with the bytes that it
named (`Stager.Staged`).

Sources are written and downloaded to files of their own, so what one of them has been settled as
is not disturbed by those that come later (`Stager.SettledFor.grows`).  Nor does it matter in
which order the downloads end: `Stager.Stages` allows all orders, and there is but one scene and
one state of the files that staging can come to.
-/

namespace Compositor.Stager

open FileTree (Grows)

variable {σ : Type} {net : Network σ} {serve : Url → Reply} {workDir : String}

/-! ## Places -/

/-- What becomes of a source.  What is not blank has a location afterwards. -/
inductive Placed (serve : Url → Reply) (files : FileTree) : MediaSource → MediaSource → Prop where
  | blank {source : MediaSource} (empty : source.isEmpty = true) : Placed serve files source source
  | path {p : String} (located : (MediaSource.path p).location? = some p)
    (present : files.present p = true) : Placed serve files (.path p) (.path p)
  | data {payload p ext : String} {bytes : List UInt8}
    (named : (MediaSource.data payload).isEmpty = false)
    (decoded : Embedded.decode payload = .ok (bytes, ext))
    (located : (MediaSource.path p).location? = some p)
    (held : files.lookup p = .ok (.file bytes)) : Placed serve files (.data payload) (.path p)
  | url {u p : String} {url : Url} {status : Nat} {bytes : List UInt8}
    (named : (MediaSource.url u).isEmpty = false) (parsed : Url.parse? (Text.trim u) = some url)
    (answered : serve url = .answer status (some bytes)) (good : 200 ≤ status ∧ status < 300)
    (located : (MediaSource.path p).location? = some p)
    (held : files.lookup p = .ok (.file bytes)) : Placed serve files (.url u) (.path p)

/-- What becomes of the source of subtitles. -/
inductive SubtitlesPlaced (serve : Url → Reply) (files : FileTree) :
    SubtitleSource → SubtitleSource → Prop where
  | blank {text : String} (empty : Text.allBlank text = true) :
    SubtitlesPlaced serve files (.inline text) (.inline text)
  | inline {text p : String} (named : Text.allBlank text = false)
    (located : (MediaSource.path p).location? = some p)
    (held : files.lookup p = .ok (.file (Text.utf8 text))) :
    SubtitlesPlaced serve files (.inline text) (.file (.path p))
  | file {source source' : MediaSource} (placed : Placed serve files source source') :
    SubtitlesPlaced serve files (.file source) (.file source')

/-- The scenes are the same but for their sources, and each asset of the one is in the place that
    the other names. -/
def Staged (serve : Url → Reply) (files : FileTree) (scene staged : Scene) : Prop :=
  scene.Along (Placed serve files) (SubtitlesPlaced serve files) staged

/-- Every source that is not blank in the one scene has a location in the other. -/
def Located (scene staged : Scene) : Prop :=
  scene.Along (fun source source' => source.isEmpty = false → source'.location?.isSome = true)
    (fun source source' => source.isEmpty = false →
      (source'.media?.bind MediaSource.location?).isSome = true) staged

theorem Placed.location? {files : FileTree} {source source' : MediaSource}
    (placed : Placed serve files source source') (named : source.isEmpty = false) :
    source'.location?.isSome = true := by
  cases placed with
  | blank empty => cases named.symm.trans empty
  | path located | data _ _ located | url _ _ _ _ located => rw [located, Option.isSome_some]

theorem SubtitlesPlaced.location? {files : FileTree} {source source' : SubtitleSource}
    (placed : SubtitlesPlaced serve files source source') (named : source.isEmpty = false) :
    (source'.media?.bind MediaSource.location?).isSome = true := by
  cases placed with
  | blank empty => cases named.symm.trans empty
  | inline _ located => rw [SubtitleSource.media?, Option.bind_some, located, Option.isSome_some]
  | file placed => exact placed.location? named

theorem Staged.located {files : FileTree} {scene staged : Scene}
    (placed : Staged serve files scene staged) : Located scene staged :=
  placed.imp Placed.location? SubtitlesPlaced.location?

theorem location?_join {name : String} (plain : Path.IsPlain name) (base : String) :
    (MediaSource.path (Path.join base name)).location? = some (Path.join base name) := by
  rw [MediaSource.location?, Path.isEmpty_join plain]
  rfl

/-! ## Writing files -/

variable {s s' s'' : Stager σ} {t t' : FileTree} {name path : String} {bytes : List UInt8}

theorem writeFile_pool (path : String) (bytes : List UInt8) (s : Stager σ) :
    (writeFile path bytes s).2.pool = s.pool := by
  rw [writeFile]
  split <;> rfl

/-- A file has been written in the directory. -/
theorem writeFile_join (plain : Path.IsPlain name)
    (written : writeFile (Path.join workDir name) bytes s = (.ok (), s')) :
    s'.files.lookup (Path.join workDir name) = .ok (.file bytes) ∧
      ∀ names : String → Prop, names name → Grows workDir names s.files s'.files := by
  rw [writeFile] at written
  cases result : s.files.write (Path.join workDir name) bytes with
  | error e =>
    rw [result] at written
    cases written
  | ok files =>
    rw [result] at written
    cases written
    exact ⟨FileTree.lookup_write_self result,
      fun names among => .write plain among result (.refl _)⟩

theorem subtitleName_isPlain (text : String) : Path.IsPlain (subtitleName text) := by
  rw [subtitleName]
  split <;> exact ⟨by decide, by decide, by decide, by decide⟩

/-- The file of inline subtitles is none of the files of the other sources. -/
theorem subtitleName_ne (text : String) {positions : Nat → Prop} :
    ¬ NamedFor positions (subtitleName text) := by
  rintro ⟨index, ext, -, same⟩
  have first := congrArg (fun name : String => name.toList.head?) same
  rw [assetName_toList, subtitleName] at first
  split at first <;> cases first

/-! ## Settling -/

/-- What a source is settled as. -/
inductive SettledFor (workDir : String) (t : FileTree) (index : Nat) :
    MediaSource → Settled → Prop where
  | blank {source : MediaSource} (empty : source.isEmpty = true) :
    SettledFor workDir t index source (.done source)
  | path {p : String} (located : (MediaSource.path p).location? = some p)
    (present : t.present p = true) : SettledFor workDir t index (.path p) (.done (.path p))
  | data {payload ext : String} {bytes : List UInt8}
    (named : (MediaSource.data payload).isEmpty = false)
    (decoded : Embedded.decode payload = .ok (bytes, ext))
    (held : t.lookup (Path.join workDir (assetName index ext)) = .ok (.file bytes)) :
    SettledFor workDir t index (.data payload)
      (.done (.path (Path.join workDir (assetName index ext))))
  | url {u : String} (named : (MediaSource.url u).isEmpty = false) :
    SettledFor workDir t index (.url u) (.pending (.url u) (Text.trim u))

variable {index : Nat} {source : MediaSource} {sources : List MediaSource} {x : Settled}
  {xs : List Settled}

/-- Files of other positions do not disturb what a source is settled as. -/
theorem SettledFor.grows {positions : Nat → Prop} (settled : SettledFor workDir t index source x)
    (grows : Grows workDir (NamedFor positions) t t') (other : ¬ positions index) :
    SettledFor workDir t' index source x := by
  cases settled with
  | blank empty => exact .blank empty
  | path located present => exact .path located (grows.present present)
  | data named decoded held =>
    refine .data named decoded (grows.lookup ?_ ?_ held)
    · exact assetName_isPlain index (Embedded.isExtension_decode decoded).noSlash
    · rintro ⟨index', ext', among, same⟩
      exact other (index_of_assetName same ▸ among)
  | url named => exact .url named

theorem settle_settled (settled : settle workDir index source s = (.ok x, s')) :
    SettledFor workDir s'.files index source x ∧
      Grows workDir (NamedFor (· = index)) s.files s'.files := by
  cases source with
  | path p =>
    rw [settle] at settled
    split at settled
    · rename_i there
      cases settled
      refine ⟨?_, .refl _⟩
      cases empty : p.isEmpty with
      | true => exact .blank empty
      | false =>
        rw [empty, Bool.false_or] at there
        exact .path (by rw [MediaSource.location?, empty]; rfl) there
    · cases settled
  | data payload =>
    rw [settle] at settled
    cases empty : Text.allBlank payload with
    | true =>
      rw [empty, if_pos rfl] at settled
      cases settled
      exact ⟨.blank empty, .refl _⟩
    | false =>
      rw [empty, if_neg Bool.false_ne_true] at settled
      cases decoded : Embedded.decode payload with
      | error e =>
        rw [decoded] at settled
        cases settled
      | ok both =>
        obtain ⟨bytes, ext⟩ := both
        rw [decoded] at settled
        dsimp only at settled
        cases written : writeFile (Path.join workDir (assetName index ext)) bytes s with
        | mk result after =>
          rw [written] at settled
          cases result with
          | error e => cases settled
          | ok =>
            cases settled
            obtain ⟨held, grows⟩ :=
              writeFile_join (assetName_isPlain index (Embedded.isExtension_decode decoded).noSlash) written
            exact ⟨.data empty decoded held, grows _ ⟨index, ext, rfl, rfl⟩⟩
  | url u =>
    rw [settle] at settled
    cases empty : Text.allBlank u with
    | true =>
      rw [empty, if_pos rfl] at settled
      cases settled
      exact ⟨.blank empty, .refl _⟩
    | false =>
      rw [empty, if_neg Bool.false_ne_true] at settled
      cases settled
      exact ⟨.url empty, .refl _⟩

/-- What consecutive sources are settled as. -/
inductive SettledFrom (workDir : String) (t : FileTree) :
    Nat → List MediaSource → List Settled → Prop where
  | nil (index : Nat) : SettledFrom workDir t index [] []
  | cons {index : Nat} {source : MediaSource} {x : Settled} {sources : List MediaSource}
    {xs : List Settled} (first : SettledFor workDir t index source x)
    (others : SettledFrom workDir t (index + 1) sources xs) :
    SettledFrom workDir t index (source :: sources) (x :: xs)

theorem settleFrom_settled (settled : settleFrom workDir index s sources = (.ok xs, s')) :
    SettledFrom workDir s'.files index sources xs ∧
      Grows workDir (NamedFor (index ≤ ·)) s.files s'.files := by
  induction sources generalizing index s xs with
  | nil =>
    cases settled
    exact ⟨.nil index, .refl _⟩
  | cons source sources inductionHypothesis =>
    rw [settleFrom] at settled
    cases first : settle workDir index source s with
    | mk result after =>
      rw [first] at settled
      cases result with
      | error e => cases settled
      | ok x =>
        dsimp only at settled
        cases others : settleFrom workDir (index + 1) after sources with
        | mk result final =>
          rw [others] at settled
          cases result with
          | error e => cases settled
          | ok xs =>
            cases settled
            -- What comes later goes to files of later positions.
            obtain ⟨settled, grows⟩ := settle_settled first
            obtain ⟨rest, grows'⟩ := inductionHypothesis others
            exact ⟨.cons (settled.grows grows' (by omega)) rest,
              (grows.mono fun _ => .mono fun _ here => Nat.le_of_eq here.symm).trans
                (grows'.mono fun _ => .mono fun _ late => Nat.le_of_succ_le late)⟩

/-! ## Downloads of what is left -/

variable {d : Download} {ds : List Download}

theorem index_le_of_mem_downloadsFrom (mem : d ∈ downloadsFrom index xs) : index ≤ d.index := by
  induction xs generalizing index with
  | nil => cases mem
  | cons x xs inductionHypothesis =>
    cases x with
    | done source => exact Nat.le_of_succ_le (inductionHypothesis mem)
    | pending source url =>
      cases mem with
      | head => exact Nat.le_refl index
      | tail _ mem => exact Nat.le_of_succ_le (inductionHypothesis mem)

/-- Each download has a position of its own. -/
theorem nodup_downloadsFrom (index : Nat) (xs : List Settled) :
    ((downloadsFrom index xs).map Download.index).Nodup := by
  induction xs generalizing index with
  | nil => exact List.nodup_nil
  | cons x xs inductionHypothesis =>
    cases x with
    | done source => exact inductionHypothesis (index + 1)
    | pending source url =>
      refine List.nodup_cons.mpr ⟨fun mem => ?_, inductionHypothesis (index + 1)⟩
      obtain ⟨d, among, same⟩ := List.mem_map.mp mem
      have late := index_le_of_mem_downloadsFrom among
      rw [same] at late
      exact Nat.lt_irrefl index late

/-- What consecutive sources become once their downloads are there. -/
def settledFrom (workDir : String) (index : Nat) : List Settled → List MediaSource
  | [] => []
  | .done source :: xs => source :: settledFrom workDir (index + 1) xs
  | .pending _ url :: xs =>
    .path (Download.path workDir ⟨index, url⟩) :: settledFrom workDir (index + 1) xs

/-- The path of each download is put in the place of the source that named it, whatever stands
    before. -/
theorem putBack_downloadsFrom (workDir : String) (before : List MediaSource) (xs : List Settled) :
    putBack (before ++ xs.map Settled.source)
        ((downloadsFrom before.length xs).map (Download.landed workDir)) =
      before ++ settledFrom workDir before.length xs := by
  induction xs generalizing before with
  | nil => rfl
  | cons x xs inductionHypothesis =>
    cases x with
    | done source =>
      have rest := inductionHypothesis (before ++ [source])
      rw [List.length_append, List.append_assoc, List.append_assoc] at rest
      exact rest
    | pending source url =>
      have rest := inductionHypothesis (before ++ [.path (Download.path workDir ⟨before.length, url⟩)])
      rw [List.length_append, List.append_assoc, List.append_assoc] at rest
      -- The place of the source is the first one after those before it.
      have first : (before ++ source :: xs.map Settled.source).set before.length
          (.path (Download.path workDir ⟨before.length, url⟩)) =
          before ++ .path (Download.path workDir ⟨before.length, url⟩) :: xs.map Settled.source := by
        rw [List.set_append_right _ _ (Nat.le_refl _), Nat.sub_self, List.set_cons_zero]
      rw [downloadsFrom, List.map_cons, List.map_cons, putBack, List.foldl_cons]
      exact (congrArg (putBack · _) first).trans rest

theorem length_settledFrom (workDir : String) (index : Nat) (xs : List Settled) :
    (settledFrom workDir index xs).length = xs.length := by
  induction xs generalizing index with
  | nil => rfl
  | cons x xs inductionHypothesis =>
    cases x <;> exact congrArg (· + 1) (inductionHypothesis (index + 1))

theorem SettledFrom.length_eq (settled : SettledFrom workDir t index sources xs) :
    xs.length = sources.length := by
  induction settled with
  | nil => rfl
  | cons _ _ inductionHypothesis => exact congrArg (· + 1) inductionHypothesis

/-- The sources that the paths of the downloads are given to are those that named them. -/
theorem placed_of_settled (settled : SettledFrom workDir t index sources xs)
    (grows : Grows workDir (NamedFor (· ∈ ds.map Download.index)) t t')
    (got : ∀ d ∈ ds, ∃ bytes, fetched serve d.url = .ok bytes ∧
      t'.lookup (Download.path workDir d) = .ok (.file bytes))
    (left : ∀ d : Download, index ≤ d.index → (d ∈ ds ↔ d ∈ downloadsFrom index xs)) :
    List.Forall₂ (Placed serve t') sources (settledFrom workDir index xs) := by
  -- Of all the downloads, those from a position on are the downloads of what is left there.
  induction settled with
  | nil => exact .nil
  | @cons index source x sources xs first others inductionHypothesis =>
    cases x with
    | done source' =>
      have other : index ∉ ds.map Download.index := by
        intro mem
        obtain ⟨d, among, same⟩ := List.mem_map.mp mem
        have late : index + 1 ≤ d.index :=
          index_le_of_mem_downloadsFrom ((left d (Nat.le_of_eq same.symm)).mp among)
        omega
      refine .cons ?_ (inductionHypothesis fun d late => left d (Nat.le_of_succ_le late))
      cases first.grows grows other with
      | blank empty => exact .blank empty
      | path located present => exact .path located present
      | data named decoded held =>
        exact .data named decoded
          (location?_join (assetName_isPlain index (Embedded.isExtension_decode decoded).noSlash) workDir) held
    | pending source' url =>
      refine .cons ?_ (inductionHypothesis fun d late => ?_)
      · cases first with
        | url named =>
          obtain ⟨bytes, fetched, held⟩ :=
            got ⟨index, Text.trim _⟩ ((left _ (Nat.le_refl index)).mpr (.head _))
          obtain ⟨u, status, parsed, answered, good⟩ := answer_of_fetched fetched
          exact .url named parsed answered good (location?_join (Download.isPlain _) workDir) held
      · rw [left d (Nat.le_of_succ_le late), downloadsFrom, List.mem_cons, or_iff_right]
        rintro rfl
        exact Nat.lt_irrefl _ late

/-! ## Inline subtitles -/

variable {scene scene' staged : Scene} {positions : Nat → Prop}

/-- Subtitles that are not inline, or blank, stay; the others become a file. -/
theorem stageSubtitles_cases (written : stageSubtitles workDir scene s = (.ok scene', s')) :
    (scene' = scene ∧ ∀ t text, scene.subtitles = some t → t.source = .inline text →
        Text.allBlank text = true) ∨
      ∃ t text, scene.subtitles = some t ∧ t.source = .inline text ∧
        Text.allBlank text = false ∧
        scene' = scene.withSubtitleFile (Path.join workDir (subtitleName text)) ∧
        s'.files.lookup (Path.join workDir (subtitleName text)) = .ok (.file (Text.utf8 text)) := by
  rw [stageSubtitles] at written
  split at written
  · rename_i text _ _ _ _ _ subtitles
    split at written
    · rename_i empty
      cases written
      refine .inl ⟨rfl, ?_⟩
      rintro t text' same inline
      cases subtitles.symm.trans same
      cases inline
      exact empty
    · rename_i named
      dsimp only at written
      cases file : writeFile (Path.join workDir (subtitleName text)) (Text.utf8 text) s with
      | mk result after =>
        rw [file] at written
        cases result with
        | error e => cases written
        | ok =>
          cases written
          have held := (writeFile_join (subtitleName_isPlain text) file).1
          exact .inr ⟨_, text, subtitles, rfl, Bool.eq_false_iff.mpr named, rfl, held⟩
  · rename_i none
    cases written
    refine .inl ⟨rfl, ?_⟩
    rintro ⟨source, fontSize, color, position, outline, background⟩ text subtitles rfl
    exact absurd subtitles (none _ _ _ _ _ _)

theorem SubtitlesPlaced.of_along {source source' : SubtitleSource}
    (along : source.Along (Placed serve t) source')
    (blank : ∀ text, source = .inline text → Text.allBlank text = true) :
    SubtitlesPlaced serve t source source' := by
  cases along with
  | inline text => exact .blank (blank text rfl)
  | file placed => exact .file placed

theorem SubtitlesPlaced.of_along_file {source' : SubtitleSource} {text : String}
    (along : (SubtitleSource.file (.path path)).Along (Placed serve t) source')
    (named : Text.allBlank text = false) (located : (MediaSource.path path).location? = some path)
    (held : t.lookup path = .ok (.file (Text.utf8 text))) :
    SubtitlesPlaced serve t (.inline text) source' := by
  cases along with
  | file placed => cases placed <;> exact .inline named located held

/-- The file of the subtitles is one of the sources that are placed. -/
theorem staged_of_along (subtitles : stageSubtitles workDir scene s = (.ok scene', s'))
    (grows : Grows workDir (NamedFor positions) s'.files t)
    (along : scene'.Along (Placed serve t) (SubtitleSource.Along (Placed serve t)) staged) :
    Staged serve t scene staged := by
  obtain ⟨frame, background, images, audio, related⟩ := along
  rcases stageSubtitles_cases subtitles with
    ⟨rfl, blank⟩ | ⟨before, text, given, inline, named, rfl, held⟩
  · refine ⟨frame, background, images, audio, ?_⟩
    generalize staged.subtitles = after at related ⊢
    cases given : scene'.subtitles with
    | none =>
      rw [given] at related
      cases related
      exact .none
    | some before =>
      rw [given] at related
      cases related with
      | some related =>
        exact .some ⟨related.1, .of_along related.2 fun text => blank before text given⟩
  · refine ⟨frame, background, images, audio, ?_⟩
    generalize staged.subtitles = after at related ⊢
    rw [Scene.withSubtitleFile, given] at related
    rw [given]
    cases related with
    | some related =>
      refine .some ⟨related.1, ?_⟩
      rw [inline]
      have plain := subtitleName_isPlain text
      exact .of_along_file related.2 named (location?_join plain workDir)
        (grows.lookup plain (subtitleName_ne text) held)

/-! ## Staging -/

/-- Staging up to the downloads: the scene with its subtitles in a file, and what its sources
    have been settled as. -/
def prepare (workDir : String) (scene : Scene) (s : Stager σ) :
    Except AssetError (Scene × List Settled) × Stager σ :=
  match createDirectory workDir s with
  | (.error e, s) => (.error e, s)
  | (.ok (), s) =>
    match stageSubtitles workDir scene s with
    | (.error e, s) => (.error e, s)
    | (.ok scene, s) =>
      match settleFrom workDir 0 s scene.mediaSources with
      | (.error e, s) => (.error e, s)
      | (.ok xs, s) => (.ok (scene, xs), s)

/-- The scene when its downloads are there. -/
def finish (scene : Scene) (xs : List Settled) (downloaded : List Downloaded) : Scene :=
  let settled := scene.withSources (xs.map Settled.source)
  settled.withSources (putBack settled.mediaSources downloaded)

/-- The second list of the sources has as many places as the first, so each download comes to the
    place of its source. -/
theorem finish_eq {scene : Scene} (workDir : String) (same : xs.length = scene.mediaSources.length) :
    finish scene xs ((downloadsFrom 0 xs).map (Download.landed workDir)) =
      scene.withSources (settledFrom workDir 0 xs) := by
  have listed : (scene.withSources (xs.map Settled.source)).mediaSources = xs.map Settled.source :=
    scene.mediaSources_withSources _ (by rw [List.length_map, same])
  have back : putBack (xs.map Settled.source)
      ((downloadsFrom 0 xs).map (Download.landed workDir)) = settledFrom workDir 0 xs :=
    putBack_downloadsFrom workDir [] xs
  rw [finish, listed, back]
  exact scene.withSources_withSources (by rw [length_settledFrom, List.length_map])

theorem stage_eq (net : Network σ) (workDir : String) (scene : Scene) (s : Stager σ) :
    stage net workDir scene s =
      match prepare workDir scene s with
      | (.error e, s) => (.error e, s)
      | (.ok (scene, xs), s) =>
        match downloadAll net workDir (downloadsFrom 0 xs) s with
        | (.error e, s) => (.error e, s)
        | (.ok downloaded, s) => (.ok (finish scene xs downloaded), s) := by
  rw [stage, prepare]
  cases createDirectory workDir s with
  | mk result s =>
    cases result with
    | error e => rfl
    | ok =>
      dsimp only
      cases stageSubtitles workDir scene s with
      | mk result s =>
        cases result with
        | error e => rfl
        | ok scene =>
          dsimp only
          rw [stageSources]
          cases settleFrom workDir 0 s scene.mediaSources with
          | mk result s => cases result <;> rfl

/-- Staging with the downloads in any order. -/
inductive Stages (net : Network σ) (workDir : String) (scene : Scene) (s : Stager σ) :
    Except AssetError Scene → Stager σ → Prop where
  | refused {e : AssetError} {s' : Stager σ} (prepared : prepare workDir scene s = (.error e, s')) :
    Stages net workDir scene s (.error e) s'
  | settled {scene' : Scene} {xs : List Settled} {s' : Stager σ}
    (prepared : prepare workDir scene s = (.ok (scene', xs), s'))
    (none : downloadsFrom 0 xs = []) :
    Stages net workDir scene s (.ok (finish scene' xs [])) s'
  | downloaded {scene' : Scene} {xs : List Settled} {s' s'' : Stager σ} {p : Pool Downloaded}
    {r : Except BatchError (List Downloaded)}
    (prepared : prepare workDir scene s = (.ok (scene', xs), s'))
    (some : downloadsFrom 0 xs ≠ [])
    (batched : Pool.Batched (download net workDir) (downloadsFrom 0 xs) s'.pool s' p s'' r) :
    Stages net workDir scene s
      ((r.mapError .batch).map (finish scene' xs))
      { s'' with pool := p }

theorem prepare_eq_ok (prepared : prepare workDir scene s = (.ok (scene', xs), s')) :
    ∃ s₁ s₂, createDirectory workDir s = (.ok (), s₁) ∧
      stageSubtitles workDir scene s₁ = (.ok scene', s₂) ∧
      settleFrom workDir 0 s₂ scene'.mediaSources = (.ok xs, s') := by
  rw [prepare] at prepared
  cases created : createDirectory workDir s with
  | mk result s₁ =>
    rw [created] at prepared
    cases result with
    | error e => cases prepared
    | ok =>
      dsimp only at prepared
      cases subtitles : stageSubtitles workDir scene s₁ with
      | mk result s₂ =>
        rw [subtitles] at prepared
        cases result with
        | error e => cases prepared
        | ok scene₁ =>
          dsimp only at prepared
          cases settled : settleFrom workDir 0 s₂ scene₁.mediaSources with
          | mk result s₃ =>
            rw [settled] at prepared
            cases result with
            | error e => cases prepared
            | ok xs =>
              cases prepared
              exact ⟨s₁, s₂, rfl, subtitles, settled⟩

/-- Once all sources are placed, the scene is staged. -/
theorem prepare_staged {sources : List MediaSource}
    (prepared : prepare workDir scene s = (.ok (scene', xs), s')) :
    SettledFrom workDir s'.files 0 scene'.mediaSources xs ∧
      ∀ {positions t}, Grows workDir (NamedFor positions) s'.files t →
        List.Forall₂ (Placed serve t) scene'.mediaSources sources →
          Staged serve t scene (scene'.withSources sources) := by
  obtain ⟨s₁, s₂, -, subtitles, settled⟩ := prepare_eq_ok prepared
  obtain ⟨settled, grows⟩ := settleFrom_settled settled
  refine ⟨settled, fun grows' related => ?_⟩
  exact staged_of_along subtitles
    ((grows.mono fun _ => .mono fun _ _ => trivial).trans
      (grows'.mono fun _ => .mono fun _ _ => trivial))
    (Scene.withSources_along related)

/-- What comes back from staging is staged, in whatever order the downloads end. -/
theorem staged_of_stages (serves : net.Serves serve)
    (stages : Stages net workDir scene s (.ok staged) s') : Staged serve s'.files scene staged := by
  generalize returned : (Except.ok staged : Except AssetError Scene) = result at stages
  cases stages with
  | refused => cases returned
  | @settled scene' xs s' prepared none =>
    cases returned
    obtain ⟨settled, ready⟩ := prepare_staged prepared
    -- No downloads are made, and there are none to make.
    have sources := finish_eq workDir settled.length_eq
    rw [none, List.map_nil] at sources
    rw [sources]
    have unchanged : Grows workDir
        (NamedFor (· ∈ ([] : List Download).map Download.index)) s'.files s'.files := .refl _
    have placed : List.Forall₂ (Placed serve s'.files) _ _ :=
      placed_of_settled settled unchanged (fun _ mem => nomatch mem) fun d _ => by rw [none]
    exact ready unchanged placed
  | @downloaded scene' xs s₁ s₂ p r prepared some batched =>
    cases r with
    | error e => cases returned
    | ok downloaded =>
      cases returned
      obtain ⟨settled, ready⟩ := prepare_staged prepared
      have files := batched_files serves batched
      have delivered := delivered_of_batched (nodup_downloadsFrom 0 xs) files
      obtain ⟨rfl, brought⟩ := values_of_batched files
      rw [finish_eq workDir settled.length_eq]
      refine ready delivered.grows (placed_of_settled settled delivered.grows ?_ fun _ _ => .rfl)
      intro d mem
      obtain ⟨place, bytes, brings⟩ := brought d mem
      exact ⟨bytes, brings.1, delivered.lookup mem brings⟩

/-- There is but one outcome of staging. -/
theorem stages_unique {result result' : Except AssetError Scene} (serves : net.Serves serve)
    (stages : Stages net workDir scene s result s')
    (stages' : Stages net workDir scene s result' s'') :
    result' = result ∧ ∀ place, s''.files.entry? place = s'.files.entry? place := by
  cases stages with
  | refused prepared =>
    cases stages' with
    | refused prepared' =>
      cases prepared.symm.trans prepared'
      exact ⟨rfl, fun _ => rfl⟩
    | settled prepared' | downloaded prepared' => cases prepared.symm.trans prepared'
  | settled prepared none =>
    cases stages' with
    | refused prepared' => cases prepared.symm.trans prepared'
    | settled prepared' =>
      cases prepared.symm.trans prepared'
      exact ⟨rfl, fun _ => rfl⟩
    | downloaded prepared' some =>
      cases prepared.symm.trans prepared'
      exact absurd none some
  | @downloaded _ xs _ _ _ _ prepared some batched =>
    cases stages' with
    | refused prepared' => cases prepared.symm.trans prepared'
    | settled prepared' none =>
      cases prepared.symm.trans prepared'
      exact absurd none some
    | downloaded prepared' _ batched' =>
      cases prepared.symm.trans prepared'
      obtain ⟨rfl, same⟩ := batched_unique (nodup_downloadsFrom 0 xs)
        (batched_files serves batched) (batched_files serves batched')
      exact ⟨rfl, same⟩

/-! ## Stagers at work -/

/-- The stager can go to work: its pool has come about by steps, and a place in it is free. -/
structure Ready (s : Stager σ) : Prop where
  reachable : s.pool.Reachable
  room : 0 < s.pool.free

theorem ofSettings_ready {settings : FetchSettings} {files : FileTree} {world : σ}
    (made : ofSettings settings files world = .ok s) : s.Ready := by
  rw [ofSettings] at made
  split at made
  · cases made
    exact ⟨⟨_, _, [], rfl⟩, Nat.lt_of_lt_of_le Nat.one_pos (Nat.le_max_right _ _)⟩
  · cases made

theorem settle_pool (workDir : String) (index : Nat) (source : MediaSource) (s : Stager σ) :
    (settle workDir index source s).2.pool = s.pool := by
  cases source with
  | path p =>
    rw [settle]
    split <;> rfl
  | data payload =>
    rw [settle]
    split
    · rfl
    split
    · rfl
    rename_i bytes ext _
    have pool := writeFile_pool (Path.join workDir (assetName index ext)) bytes s
    dsimp only
    split <;> (rename_i written; rw [written] at pool; exact pool)
  | url u =>
    rw [settle]
    split <;> rfl

theorem settleFrom_pool (workDir : String) (index : Nat) (s : Stager σ)
    (sources : List MediaSource) : (settleFrom workDir index s sources).2.pool = s.pool := by
  induction sources generalizing index s with
  | nil => rfl
  | cons source sources inductionHypothesis =>
    have pool := settle_pool workDir index source s
    rw [settleFrom]
    split
    · rename_i first
      rw [first] at pool
      exact pool
    rename_i after first
    rw [first] at pool
    have pool' := inductionHypothesis (index + 1) after
    split <;> (rename_i others; rw [others] at pool'; exact pool'.trans pool)

theorem stageSubtitles_pool (workDir : String) (scene : Scene) (s : Stager σ) :
    (stageSubtitles workDir scene s).2.pool = s.pool := by
  rw [stageSubtitles]
  split
  · rename_i text _ _ _ _ _ _
    split
    · rfl
    have pool := writeFile_pool (Path.join workDir (subtitleName text)) (Text.utf8 text) s
    dsimp only
    split <;> (rename_i written; rw [written] at pool; exact pool)
  · rfl

theorem createDirectory_pool (workDir : String) (s : Stager σ) :
    (createDirectory workDir s).2.pool = s.pool := by
  rw [createDirectory]
  split <;> rfl

theorem prepare_pool (workDir : String) (scene : Scene) (s : Stager σ) :
    (prepare workDir scene s).2.pool = s.pool := by
  have pool := createDirectory_pool workDir s
  rw [prepare]
  split
  · rename_i created
    rw [created] at pool
    exact pool
  rename_i s₁ created
  rw [created] at pool
  have pool₁ := stageSubtitles_pool workDir scene s₁
  split
  · rename_i written
    rw [written] at pool₁
    exact pool₁.trans pool
  rename_i scene₁ s₂ written
  rw [written] at pool₁
  have pool₂ := settleFrom_pool workDir 0 s₂ scene₁.mediaSources
  split <;> (rename_i settled; rw [settled] at pool₂; exact pool₂.trans (pool₁.trans pool))

/-- Getting one download after the other is one of the orders. -/
theorem stage_stages (ready : s.Ready) (net : Network σ) (workDir : String) (scene : Scene) :
    Stages net workDir scene s (stage net workDir scene s).1 (stage net workDir scene s).2 ∧
      (stage net workDir scene s).2.Ready := by
  have pool := prepare_pool workDir scene s
  rw [stage_eq]
  cases prepared : prepare workDir scene s with
  | mk result s₁ =>
    rw [prepared] at pool
    have ready₁ : s₁.Ready := ⟨pool ▸ ready.reachable, pool ▸ ready.room⟩
    cases result with
    | error e => exact ⟨.refused prepared, ready₁⟩
    | ok both =>
      obtain ⟨scene₁, xs⟩ := both
      dsimp only
      rw [downloadAll]
      by_cases none : downloadsFrom 0 xs = []
      · rw [none]
        exact ⟨.settled prepared none, ready₁⟩
      · obtain ⟨r, p, s₂, ran, free, batched⟩ := Pool.runInTurn_batched (download net workDir)
          ready₁.reachable ready₁.room (downloadsFrom 0 xs) s₁
        rw [if_neg (by simpa using none), ran]
        have stages := Stages.downloaded prepared none batched
        obtain ⟨started, submitted, course⟩ := batched.course
        obtain ⟨ss, run⟩ := course.follow
        have ready₂ : Ready { s₂ with pool := p } :=
          ⟨(batched.reachable.step submitted).follow run, free ▸ ready₁.room⟩
        cases r with
        | error e => exact ⟨stages, ready₂⟩
        | ok downloaded => exact ⟨stages, ready₂⟩

/-- Staging puts every asset in the place that named it, and the order in which the downloads end
    does not matter. -/
theorem stage_staged (serves : net.Serves serve) (ready : s.Ready)
    (returned : stage net workDir scene s = (.ok staged, s')) :
    Staged serve s'.files scene staged ∧ Located scene staged ∧
      ∀ result s'', Stages net workDir scene s result s'' →
        result = .ok staged ∧ ∀ place, s''.files.entry? place = s'.files.entry? place := by
  have stages := (stage_stages ready net workDir scene).1
  rw [returned] at stages
  have placed := staged_of_stages serves stages
  exact ⟨placed, placed.located, fun _ _ others => stages_unique serves stages others⟩

/-- A network that answers each request with the text of its URL. -/
def echo : Network Unit where
  get u _ := (.answer 200 (some (Text.utf8 u.text)), ())
  now _ := 0
  sleep _ _ := ()

/-- A stager before its first scene. -/
def idle : Stager Unit where
  settings := .standard
  limiter := .perMinute 60
  pool := .ofLimit "fetch" 4
  attempts := []
  files := .empty
  world := ()

/-- A scene with an asset of each kind, and a clip that shows nothing. -/
def assorted : Scene :=
  { Scene.blank 1 16 16 with
    background := .image (.data "aGk=")
    images :=
      [⟨.url " http://[::1]/c.png ", 0, 1, none, none⟩, ⟨.url "", 0, 1, none, none⟩,
        ⟨.path "/current", 0, 1, none, none⟩]
    subtitles := some ⟨.inline "1", 24, "white", .bottom, true, "none"⟩ }

/-- What becomes of it. -/
def assortedInPlace : Scene :=
  (assorted.withSubtitleFile "w/subtitles.srt").withSources
    [.path "w/asset_0.bin", .path "w/asset_1.png", .url "", .path "/current",
      .path "w/subtitles.srt"]

theorem idle_ready : idle.Ready :=
  ofSettings_ready (rfl : ofSettings .standard .empty () = .ok idle)

theorem stage_assorted : (stage echo "w" assorted idle).1 = .ok assortedInPlace := by
  decide +kernel

theorem stage_staged_assorted :
    Staged (fun u => .answer 200 (some (Text.utf8 u.text))) (stage echo "w" assorted idle).2.files
      assorted assortedInPlace :=
  (stage_staged (fun _ _ => rfl) idle_ready (Prod.ext stage_assorted rfl)).1

end Compositor.Stager
