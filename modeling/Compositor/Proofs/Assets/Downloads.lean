import Compositor.Proofs.Assets.Extensions
import Compositor.Proofs.Files.Writing
import Compositor.Proofs.Traffic.Courses

/-! # What downloads bring about

A network may answer a request by its URL alone.  Then a download is a function of its URL and of
the files that are there (`Stager.deliver`), however long it waits and however often it tries.
The file of each download has a name of its own, because the name begins with the position of the
source in the scene.  So the downloads of a scene do not disturb each other, and every course of
them through the pool comes to the same report and the same files.
-/

namespace Compositor

variable {σ : Type} {net : Network σ} {serve : Url → Reply} {workDir raw : String}

/-! ## Getting bytes -/

/-- What the network answers depends on the URL alone. -/
def Network.Serves (net : Network σ) (serve : Url → Reply) : Prop :=
  ∀ u world, (net.get u world).1 = serve u

section

variable {ε α : Type} {policy : RetryPolicy} {transient : ε → Bool}
  {operation : Nat → σ → Except ε α × σ} {pause : Nat → σ → σ} {holds : σ → Prop}

/-- What every attempt and every pause keeps is kept. -/
theorem RetryPolicy.retryFrom_keeps (kept : ∀ n w, holds w → holds (operation n w).2)
    (paused : ∀ n w, holds w → holds (pause n w)) (attempt left : Nat) {world : σ}
    (held : holds world) : holds (policy.retryFrom transient operation pause attempt left world).2 := by
  induction left generalizing attempt world with
  | zero =>
    have ended := kept attempt world held
    rw [retryFrom]
    split <;> (rename_i made; rw [made] at ended; exact ended)
  | succ left inductionHypothesis =>
    have ended := kept attempt world held
    rw [retryFrom]
    split
    · rename_i made
      rw [made] at ended
      exact ended
    · rename_i made
      rw [made] at ended
      dsimp only
      split
      · exact inductionHypothesis (attempt + 1) (paused _ _ ended)
      · exact ended

/-- What comes of trying again and again is what came of one of the attempts. -/
theorem RetryPolicy.exists_retryFrom (attempt left : Nat) (world : σ) :
    ∃ n w, (policy.retryFrom transient operation pause attempt left world).1 =
      (operation n w).1 := by
  induction left generalizing attempt world with
  | zero =>
    refine ⟨attempt, world, ?_⟩
    rw [retryFrom]
    split <;> (rename_i made; rw [made])
  | succ left inductionHypothesis =>
    rw [retryFrom]
    split
    · rename_i made
      exact ⟨attempt, world, by rw [made]⟩
    · rename_i made
      dsimp only
      split
      · exact inductionHypothesis (attempt + 1) _
      · exact ⟨attempt, world, by rw [made]⟩

end

namespace Stager

/-- What comes of getting what is at a URL. -/
def fetched (serve : Url → Reply) (raw : String) : Except AssetError (List UInt8) :=
  match Url.parse? raw with
  | none => .error (.invalidUrl raw)
  | some u =>
    if isRequestable u then readReply raw u (serve u)
    else
      .error
        (.request raw ("builder error for url (" ++ u.withoutCredentials.text ++ ")") false)

/-- Bytes are read only from an answer that says that it has them. -/
theorem answer_of_readReply {u : Url} {reply : Reply} {bytes : List UInt8}
    (read : readReply raw u reply = .ok bytes) :
    ∃ status, reply = .answer status (some bytes) ∧ 200 ≤ status ∧ status < 300 := by
  unfold readReply at read
  split at read
  · cases read
  split at read
  · rename_i good
    split at read
    · cases read
      exact ⟨_, rfl, good⟩
    · cases read
  · cases read

theorem answer_of_fetched {bytes : List UInt8} (got : fetched serve raw = .ok bytes) :
    ∃ u status, Url.parse? raw = some u ∧ serve u = .answer status (some bytes) ∧
      200 ≤ status ∧ status < 300 := by
  rw [fetched] at got
  split at got
  · cases got
  rename_i u parsed
  split at got
  · obtain ⟨status, answered, good⟩ := answer_of_readReply got
    exact ⟨u, status, parsed, answered, good⟩
  · cases got

theorem attempt_eq (serves : net.Serves serve) (raw : String) (u : Url) (s : Stager σ) :
    (attempt net raw u s).1 =
      if isRequestable u then readReply raw u (serve u)
      else .error
        (.request raw ("builder error for url (" ++ u.withoutCredentials.text ++ ")") false) := by
  rw [attempt, request]
  by_cases fit : isRequestable u = true
  · simp only [if_pos fit]
    exact congrArg (readReply raw u) (serves u _)
  · simp only [if_neg fit]

theorem attempt_files (net : Network σ) (raw : String) (u : Url) (s : Stager σ) :
    (attempt net raw u s).2.files = s.files := by
  rw [attempt, request]
  by_cases fit : isRequestable u = true
  · simp only [if_pos fit]
    rfl
  · simp only [if_neg fit]
    rfl

/-- Getting bytes changes no file, whatever the network answers. -/
theorem fetch_files (net : Network σ) (raw : String) (s : Stager σ) :
    (fetch net raw s).2.files = s.files := by
  rw [fetch]
  cases Url.parse? raw with
  | none => rfl
  | some u =>
    have kept : ∀ (n : Nat) (w : Stager σ), w.files = s.files →
        (attempt net raw u w).2.files = s.files :=
      fun _ w held => (attempt_files net raw u w).trans held
    have paused : ∀ (ms : Nat) (w : Stager σ), w.files = s.files →
        { w with world := net.sleep (ms * RateLimiter.millisecond) w.world }.files = s.files :=
      fun _ _ held => held
    exact RetryPolicy.retryFrom_keeps kept paused 1 _ rfl

/-- The bytes depend on the URL alone. -/
theorem fetch_eq (serves : net.Serves serve) (raw : String) (s : Stager σ) :
    (fetch net raw s).1 = fetched serve raw := by
  rw [fetch, fetched]
  cases Url.parse? raw with
  | none => rfl
  | some u =>
    obtain ⟨n, w, made⟩ := RetryPolicy.exists_retryFrom 1 (s.settings.retry.maxAttempts - 1) s
    exact made.trans (attempt_eq serves raw u w)

/-- Whatever the network answers: bytes that were got are the body of an answer. -/
theorem answer_of_fetch {s : Stager σ} {bytes : List UInt8}
    (got : (fetch net raw s).1 = .ok bytes) :
    ∃ u status world, Url.parse? raw = some u ∧ (net.get u world).1 = .answer status (some bytes) ∧
      200 ≤ status ∧ status < 300 := by
  rw [fetch] at got
  split at got
  · cases got
  rename_i u parsed
  obtain ⟨n, w, made⟩ := RetryPolicy.exists_retryFrom 1 (s.settings.retry.maxAttempts - 1) s
  replace got : (attempt net raw u w).1 = .ok bytes := made.symm.trans got
  rw [attempt, request] at got
  by_cases fit : isRequestable u = true
  · simp only [if_pos fit] at got
    obtain ⟨status, answered, good⟩ := answer_of_readReply got
    exact ⟨u, status, _, parsed, answered, good⟩
  · simp only [if_neg fit] at got
    cases got

/-! ## Writing them to files -/

/-- What a download has in the end. -/
def Download.landed (workDir : String) (d : Download) : Downloaded := ⟨d.index, path workDir d⟩

/-- A download as a function of the files that are there. -/
def deliver (serve : Url → Reply) (workDir : String) (d : Download) (t : FileTree) :
    ItemEnd Downloaded × FileTree :=
  match fetched serve d.url with
  | .error e => (.error e.message, t)
  | .ok bytes =>
    match t.write (Download.path workDir d) bytes with
    | .ok t => (.value (Download.landed workDir d), t)
    | .error e => (.error (AssetError.io (Download.path workDir d) e.message).message, t)

theorem download_eq (serves : net.Serves serve) (workDir : String) (d : Download) (s : Stager σ) :
    (download net workDir d s).1 = (deliver serve workDir d s.files).1 ∧
      (download net workDir d s).2.files = (deliver serve workDir d s.files).2 := by
  rw [download, deliver, ← fetch_eq serves d.url s, ← fetch_files net d.url s]
  cases fetch net d.url s with
  | mk result after =>
    cases result with
    | error e => exact ⟨rfl, rfl⟩
    | ok bytes =>
      simp only [writeFile]
      cases after.files.write (Download.path workDir d) bytes <;> exact ⟨rfl, rfl⟩

/-! ## Names -/

variable {index index' : Nat} {ext ext' : String}

theorem assetName_toList (index : Nat) (ext : String) : (assetName index ext).toList =
    "asset_".toList ++ (Nat.toDigits 10 index ++ '.' :: ext.toList) := by
  rw [assetName, Nat.toString_eq_ofList_toDigits]
  simp only [String.toList_append, String.toList_ofList, List.append_assoc]
  rfl

theorem assetName_isPlain (index : Nat) (noSlash : '/' ∉ ext.toList) :
    Path.IsPlain (assetName index ext) := by
  have long : 6 ≤ (assetName index ext).toList.length := by
    rw [assetName_toList, List.length_append]
    exact Nat.le_add_right _ _
  have ne_of_short {name : String} (short : name.toList.length < 6) : assetName index ext ≠ name := by
    rintro rfl
    omega
  refine ⟨ne_of_short (by decide), ?_, ne_of_short (by decide), ne_of_short (by decide)⟩
  rw [assetName_toList]
  simp only [List.mem_append, List.mem_cons, not_or]
  refine ⟨by decide, fun mem => ?_, by decide, noSlash⟩
  have digit := Nat.isDigit_of_mem_toDigits (by decide) (by decide) mem
  cases digit

/-- The name of the file of a source tells the position of the source. -/
theorem index_of_assetName (same : assetName index ext = assetName index' ext') :
    index = index' := by
  have digits (n : Nat) (rest : List Char) :
      (Nat.toDigits 10 n ++ '.' :: rest).takeWhile Char.isDigit = Nat.toDigits 10 n := by
    rw [List.takeWhile_append_of_pos fun c mem =>
      Nat.isDigit_of_mem_toDigits (by decide) (by decide) mem]
    exact List.append_nil _
  have text := congrArg String.toList same
  rw [assetName_toList, assetName_toList, List.append_cancel_left_eq] at text
  have equal := congrArg (List.takeWhile Char.isDigit) text
  rw [digits, digits] at equal
  rw [← Nat.ofDigitChars_ten_toDigits (n := index), equal, Nat.ofDigitChars_ten_toDigits]

/-! ## Deliveries -/

open FileTree (Grows)

variable {d : Download} {ds : List Download} {t t' t'' : FileTree} {place : List String}
  {bytes : List UInt8}

/-- The name is that of the file of a source at one of some positions. -/
def NamedFor (positions : Nat → Prop) (name : String) : Prop :=
  ∃ index ext, positions index ∧ name = assetName index ext

theorem NamedFor.mono {positions positions' : Nat → Prop} {name : String}
    (more : ∀ index, positions index → positions' index) (named : NamedFor positions name) :
    NamedFor positions' name := by
  obtain ⟨index, ext, among, rfl⟩ := named
  exact ⟨index, ext, more index among, rfl⟩

/-- A download from these files puts bytes at a place. -/
def Brings (serve : Url → Reply) (workDir : String) (t : FileTree) (d : Download)
    (place : List String) (bytes : List UInt8) : Prop :=
  fetched serve d.url = .ok bytes ∧ t.target (Download.path workDir d) = .ok place

theorem Download.isPlain (d : Download) : Path.IsPlain (assetName d.index (urlExtension d.url)) :=
  assetName_isPlain d.index (isExtension_urlExtension d.url).noSlash

theorem deliver_eq (serve : Url → Reply) (workDir : String) (d : Download) (t : FileTree) :
    deliver serve workDir d t =
      match fetched serve d.url with
      | .error e => (.error e.message, t)
      | .ok bytes =>
        match t.target (Download.path workDir d) with
        | .ok place => (.value (Download.landed workDir d), t.set place (.file bytes))
        | .error e => (.error (AssetError.io (Download.path workDir d) e.message).message, t) := by
  rw [deliver]
  cases fetched serve d.url with
  | error e => rfl
  | ok bytes =>
    dsimp only
    rw [FileTree.write_eq]
    cases t.target (Download.path workDir d) <;> rfl

/-- How a download ends depends on the files only through whether its own can be written. -/
theorem deliver_end
    (same : t'.target (Download.path workDir d) = t.target (Download.path workDir d)) :
    (deliver serve workDir d t').1 = (deliver serve workDir d t).1 := by
  rw [deliver_eq, deliver_eq, same]
  cases fetched serve d.url with
  | error e => rfl
  | ok bytes => cases t.target (Download.path workDir d) <;> rfl

theorem brings_of_value {x : Downloaded} (value : (deliver serve workDir d t).1 = .value x) :
    x = Download.landed workDir d ∧ ∃ place bytes, Brings serve workDir t d place bytes := by
  rw [deliver_eq] at value
  split at value
  · cases value
  rename_i bytes got
  split at value
  · rename_i place target
    cases value
    exact ⟨rfl, place, bytes, got, target⟩
  · cases value

theorem deliver_grows {positions : Nat → Prop} (among : positions d.index) (t : FileTree) :
    Grows workDir (NamedFor positions) t (deliver serve workDir d t).2 := by
  rw [deliver]
  split
  · exact .refl t
  split
  · rename_i written
    exact .write (Download.isPlain d) ⟨_, _, among, rfl⟩ written (.refl _)
  · exact .refl t

theorem entry?_deliver (brings : Brings serve workDir t d place bytes) :
    FileTree.entry? (deliver serve workDir d t).2 place = some (.file bytes) := by
  obtain ⟨got, target⟩ := brings
  rw [deliver_eq, got, target]
  dsimp only
  rw [FileTree.entry?_set (FileTree.target_eq_ok.mp target).2.1, if_pos rfl]

theorem entry?_deliver_of_not (other : ∀ bytes, ¬ Brings serve workDir t d place bytes) :
    FileTree.entry? (deliver serve workDir d t).2 place = t.entry? place := by
  rw [deliver_eq]
  split
  · rfl
  rename_i bytes got
  split
  · rename_i here target
    have apart : place ≠ here := by
      rintro rfl
      exact other bytes ⟨got, target⟩
    rw [FileTree.entry?_set (FileTree.target_eq_ok.mp target).2.1, if_neg apart]
  · rfl

theorem brings_iff {names : String → Prop} (grows : Grows workDir names t t') :
    Brings serve workDir t' d place bytes ↔ Brings serve workDir t d place bytes := by
  rw [Brings, Brings, Download.path, grows.target (Download.isPlain d)]

/-- Downloads with different positions put their bytes at different places. -/
theorem Brings.index_eq {d' : Download} {bytes' : List UInt8}
    (brings : Brings serve workDir t d place bytes)
    (brings' : Brings serve workDir t d' place bytes') : d.index = d'.index :=
  index_of_assetName
    (FileTree.target_join_inj (Download.isPlain d) (Download.isPlain d') brings.2 brings'.2)

/-- Downloads have been made, each for itself: where one of them puts bytes, these are there, and
    all else is as it was. -/
structure Delivered (serve : Url → Reply) (workDir : String) (ds : List Download)
    (t t' : FileTree) : Prop where
  grows : Grows workDir (NamedFor (· ∈ ds.map Download.index)) t t'
  brought : ∀ d ∈ ds, ∀ place bytes, Brings serve workDir t d place bytes →
    t'.entry? place = some (.file bytes)
  others : ∀ place, (∀ d ∈ ds, ∀ bytes, ¬ Brings serve workDir t d place bytes) →
    t'.entry? place = t.entry? place

namespace Delivered

/-- There is one way in which the files are afterwards. -/
theorem unique (delivered : Delivered serve workDir ds t t')
    (delivered' : Delivered serve workDir ds t t'') (place : List String) :
    t''.entry? place = t'.entry? place := by
  by_cases taken : ∃ d ∈ ds, ∃ bytes, Brings serve workDir t d place bytes
  · obtain ⟨d, mem, bytes, brings⟩ := taken
    rw [delivered.brought d mem place bytes brings, delivered'.brought d mem place bytes brings]
  · have other : ∀ d ∈ ds, ∀ bytes, ¬ Brings serve workDir t d place bytes :=
      fun d mem bytes brings => taken ⟨d, mem, bytes, brings⟩
    rw [delivered.others place other, delivered'.others place other]

/-- The file of a download holds the bytes that were got. -/
theorem lookup (delivered : Delivered serve workDir ds t t') (mem : d ∈ ds)
    (brings : Brings serve workDir t d place bytes) :
    t'.lookup (Download.path workDir d) = .ok (.file bytes) := by
  have target := (delivered.grows.target (Download.isPlain d)).trans brings.2
  exact FileTree.lookup_eq_ok.mpr
    ⟨place, (FileTree.target_eq_ok.mp target).1, delivered.brought d mem place bytes brings⟩

end Delivered

section

variable {p p' q q' : Pool Downloaded} {r r' : Except BatchError (List Downloaded)}

/-- Of the stager, the downloads of a batch concern the files alone. -/
theorem batched_files (serves : net.Serves serve) {s s' : Stager σ}
    (batched : Pool.Batched (download net workDir) ds p s p' s' r) :
    Pool.Batched (deliver serve workDir) ds p s.files p' s'.files r :=
  batched.map Stager.files (download_eq serves workDir)

/-- All downloads write files of their own positions. -/
theorem deliver_grows_of_mem (t : FileTree) : ∀ d ∈ ds, ∀ w,
    Grows workDir (NamedFor (· ∈ ds.map Download.index)) t w →
      Grows workDir (NamedFor (· ∈ ds.map Download.index)) t
        (deliver serve workDir d w).2 :=
  fun _ mem w grows => grows.trans (deliver_grows (List.mem_map_of_mem mem) w)

/-- A place where no download puts bytes stays as it is. -/
theorem entry?_of_batched (batched : Pool.Batched (deliver serve workDir) ds p t p' t' r)
    (other : ∀ d ∈ ds, ∀ bytes, ¬ Brings serve workDir t d place bytes) :
    t'.entry? place = t.entry? place := by
  have keep : ∀ d ∈ ds, ∀ w,
      Grows workDir (NamedFor (· ∈ ds.map Download.index)) t w ∧
          w.entry? place = t.entry? place →
        Grows workDir (NamedFor (· ∈ ds.map Download.index)) t
            (deliver serve workDir d w).2 ∧
          FileTree.entry? (deliver serve workDir d w).2 place = t.entry? place := by
    rintro d mem w ⟨grows, same⟩
    refine ⟨deliver_grows_of_mem t d mem w grows, ?_⟩
    rw [entry?_deliver_of_not fun bytes brings => other d mem bytes ((brings_iff grows).mp brings),
      same]
  exact (batched.keeps keep ⟨.refl t, rfl⟩).2

/-- What a download has put somewhere stays there, because the others go to other places. -/
theorem deliver_lasts (distinct : (ds.map Download.index).Nodup) (t : FileTree) :
    Pool.Lasts (deliver serve workDir) ds (Grows workDir (NamedFor (· ∈ ds.map Download.index)) t)
      fun i _ w => ∀ d place bytes, ds[i]? = some d → Brings serve workDir t d place bytes →
        w.entry? place = some (.file bytes) where
  keep := deliver_grows_of_mem t
  made := by
    intro i x w item grows d place bytes here brings
    cases item.symm.trans here
    exact entry?_deliver ((brings_iff grows).mpr brings)
  kept := by
    intro i e j x w apart item grows held d place bytes here brings
    rw [entry?_deliver_of_not, held d place bytes here brings]
    intro bytes' brings'
    have same := brings.index_eq ((brings_iff grows).mp brings')
    refine apart ((List.getElem?_inj ?_ distinct).mp ?_)
    · rw [List.length_map]
      exact (List.getElem?_eq_some_iff.mp item).1
    · rw [List.getElem?_map, List.getElem?_map, item, here, Option.map_some, Option.map_some,
        same]

/-- In whatever order the downloads of a batch end, each of them is made as if it were alone. -/
theorem delivered_of_batched (distinct : (ds.map Download.index).Nodup)
    (batched : Pool.Batched (deliver serve workDir) ds p t p' t' r) :
    Delivered serve workDir ds t t' where
  grows := batched.keeps (deliver_grows_of_mem t) (.refl t)
  brought := by
    intro d mem place bytes brings
    obtain ⟨i, item⟩ := List.mem_iff_getElem?.mp mem
    obtain ⟨-, held⟩ := batched.each (deliver_lasts distinct t) (.refl t)
      (List.getElem?_eq_some_iff.mp item).1
    exact held d place bytes item brings
  others := fun _ => entry?_of_batched batched

/-- All courses of a batch come to the same report and the same files. -/
theorem batched_unique (distinct : (ds.map Download.index).Nodup)
    (batched : Pool.Batched (deliver serve workDir) ds p t p' t' r)
    (batched' : Pool.Batched (deliver serve workDir) ds q t q' t'' r') :
    r' = r ∧ ∀ place, t''.entry? place = t'.entry? place :=
  ⟨batched.report_unique batched' (deliver_grows_of_mem t)
    (fun d _ _ grows => deliver_end (grows.target (Download.isPlain d))) (.refl t),
  (delivered_of_batched distinct batched).unique (delivered_of_batched distinct batched')⟩

/-- If the batch has no failure, its values are the files of the downloads, and each of them was
    written. -/
theorem values_of_batched {downloaded : List Downloaded}
    (batched : Pool.Batched (deliver serve workDir) ds p t p' t' (.ok downloaded)) :
    downloaded = ds.map (Download.landed workDir) ∧
      ∀ d ∈ ds, ∃ place bytes, Brings serve workDir t d place bytes := by
  have values := batched.values_eq (deliver_grows_of_mem t)
    (fun d _ w grows => deliver_end (grows.target (Download.isPlain d))) (.refl t)
  have each : ∀ d ∈ ds, (deliver serve workDir d t).1 = .value (Download.landed workDir d) ∧
      ∃ place bytes, Brings serve workDir t d place bytes := by
    intro d mem
    have among : (deliver serve workDir d t).1 ∈ downloaded.map ItemEnd.value :=
      values ▸ List.mem_map_of_mem mem
    obtain ⟨x, -, value⟩ := List.mem_map.mp among
    obtain ⟨rfl, brings⟩ := brings_of_value value.symm
    exact ⟨value.symm, brings⟩
  refine ⟨?_, fun d mem => (each d mem).2⟩
  rw [List.map_congr_left fun d mem => (each d mem).1] at values
  exact List.map_injective_iff.mpr (fun _ _ same => ItemEnd.value.inj same)
    (values.trans List.map_map.symm)

end

end Stager

end Compositor
