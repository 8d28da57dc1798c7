import Compositor.Assets.Download
import Compositor.Scene.Sources

/-! # Staging

Staging puts all assets of a scene into one directory.  Local files stay where they
are but must exist; embedded bytes and inline subtitles are written to files; URLs
are downloaded.  Each source is then replaced by the path of its file.  What names
nothing stays as it is.

Staging has four parts: the directory is created, inline subtitles are written,
the other sources are settled in order as far as they need no download, and what is
left is downloaded.  The first failure ends it, and what was written before stays.
-/

namespace Compositor.Stager

variable {σ : Type}

/-! ## Inline subtitles -/

/-- How a subtitle file of the richer format begins. -/
def styledMark : List Char := "[Script Info]".toList

/-- The name of the file of inline subtitles. -/
def subtitleName (text : String) : String :=
  if styledMark.isPrefixOf (Text.trimStart text).toList then "subtitles.ass" else "subtitles.srt"

/-- Writes inline subtitles to a file; the value is the scene with that file as
    their source. -/
def stageSubtitles (workDir : String) (scene : Scene) (s : Stager σ) :
    Except AssetError Scene × Stager σ :=
  match scene.subtitles with
  | some { source := .inline text, .. } =>
    if Text.allBlank text then (.ok scene, s)
    else
      let path := Path.join workDir (subtitleName text)
      match writeFile path (Text.utf8 text) s with
      | (.ok (), s) => (.ok (scene.withSubtitleFile path), s)
      | (.error e, s) => (.error e, s)
  | _ => (.ok scene, s)

/-! ## Sources -/

/-- What is left to do for a source. -/
inductive Settled where
  /-- Nothing: this is the source from now on. -/
  | done (source : MediaSource)
  /-- A download from a URL. -/
  | pending (source : MediaSource) (url : String)
deriving DecidableEq

/-- The source until it is downloaded. -/
def Settled.source : Settled → MediaSource
  | .done source => source
  | .pending source _ => source

/-- Settles one source as far as it needs no download. -/
def settle (workDir : String) (index : Nat) (source : MediaSource) (s : Stager σ) :
    Except AssetError Settled × Stager σ :=
  match source with
  | .path p =>
    if p.isEmpty || s.files.present p then (.ok (.done source), s) else (.error (.missing p), s)
  | .data payload =>
    if Text.allBlank payload then (.ok (.done source), s)
    else
      match Embedded.decode payload with
      | .error e => (.error (.decode e.message), s)
      | .ok (bytes, ext) =>
        let path := Path.join workDir (assetName index ext)
        match writeFile path bytes s with
        | (.ok (), s) => (.ok (.done (.path path)), s)
        | (.error e, s) => (.error e, s)
  | .url u =>
    if Text.allBlank u then (.ok (.done source), s)
    else (.ok (.pending source (Text.trim u)), s)

/-- Settles consecutive sources. -/
def settleFrom (workDir : String) (index : Nat) (s : Stager σ) :
    List MediaSource → Except AssetError (List Settled) × Stager σ
  | [] => (.ok [], s)
  | source :: sources =>
    match settle workDir index source s with
    | (.error e, s) => (.error e, s)
    | (.ok x, s) =>
      match settleFrom workDir (index + 1) s sources with
      | (.error e, s) => (.error e, s)
      | (.ok xs, s) => (.ok (x :: xs), s)

/-- The downloads that consecutive sources still need. -/
def downloadsFrom (index : Nat) : List Settled → List Download
  | [] => []
  | .done _ :: xs => downloadsFrom (index + 1) xs
  | .pending _ url :: xs => ⟨index, url⟩ :: downloadsFrom (index + 1) xs

/-- Puts the path of each downloaded file in the place of the source that it is for. -/
def putBack (sources : List MediaSource) (downloaded : List Downloaded) : List MediaSource :=
  downloaded.foldl (fun sources file => sources.set file.index (.path file.path)) sources

/-! ## Scenes -/

/-- Creates the directory of a scene's assets. -/
def createDirectory (workDir : String) (s : Stager σ) : Except AssetError Unit × Stager σ :=
  match s.files.createDirectories workDir with
  | .ok files => (.ok (), { s with files })
  | .error e => (.error (.io workDir e.message), s)

variable (net : Network σ)

/-- Stages the sources of a scene. -/
def stageSources (workDir : String) (scene : Scene) (s : Stager σ) :
    Except AssetError Scene × Stager σ :=
  match settleFrom workDir 0 s scene.mediaSources with
  | (.error e, s) => (.error e, s)
  | (.ok xs, s) =>
    match downloadAll net workDir (downloadsFrom 0 xs) s with
    | (.error e, s) => (.error e, s)
    | (.ok downloaded, s) =>
      -- The sources are listed again, now that some of them have changed.
      let scene := scene.withSources (xs.map Settled.source)
      (.ok (scene.withSources (putBack scene.mediaSources downloaded)), s)

/-- Puts all assets of a scene into a directory; the value is the scene with all
    sources replaced. -/
def stage (workDir : String) (scene : Scene) (s : Stager σ) :
    Except AssetError Scene × Stager σ :=
  -- Subtitles become a file first, so that this file is one of the sources.
  match createDirectory workDir s with
  | (.error e, s) => (.error e, s)
  | (.ok (), s) =>
    match stageSubtitles workDir scene s with
    | (.error e, s) => (.error e, s)
    | (.ok scene, s) => stageSources net workDir scene s

end Compositor.Stager
