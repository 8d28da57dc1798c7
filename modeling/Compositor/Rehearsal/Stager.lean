import Compositor.Assets.Error
import Compositor.Files.Tree
import Compositor.Scene.Basic

/-! # A rehearsal stager

A stager that stages nothing: it creates the working directory and leaves the scene
as it is.  It can be told that the next scene fails, and remembers the jobs it was
called for.
-/

namespace Compositor

/-- What the stager was told and what it has seen. -/
structure RehearsalStager where
  /-- The jobs it was called for, in order. -/
  staged : List String
  /-- The error of the next call. -/
  nextError : Option AssetError

namespace RehearsalStager

/-- A stager that has seen nothing. -/
def fresh : RehearsalStager := ⟨[], none⟩

/-- Stages a scene of a job. -/
def stage (id workDir : String) (scene : Scene) (files : FileTree) (s : RehearsalStager) :
    Except AssetError Scene × FileTree × RehearsalStager :=
  let s := { s with staged := s.staged ++ [id] }
  match s.nextError with
  | some e => (.error e, files, { s with nextError := none })
  | none =>
    match files.createDirectories workDir with
    | .ok files => (.ok scene, files, s)
    | .error e => (.error (.io workDir e.message), files, s)

end RehearsalStager

end Compositor
