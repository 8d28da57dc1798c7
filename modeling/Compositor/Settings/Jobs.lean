import Compositor.Datum.Record
import Compositor.Files.Path

/-! # Job settings

Where jobs keep their files.
-/

namespace Compositor

/-- Where jobs keep their files. -/
structure JobSettings where
  /-- The directory that has a working directory for each job. -/
  workDir : String
  /-- The directory of the rendered files. -/
  outputDir : String
  /-- The working directory of a failed job is kept. -/
  retainFailed : Bool
deriving DecidableEq

namespace JobSettings

/-- The settings unless said otherwise. -/
def standard : JobSettings where
  workDir := "/tmp/montage"
  outputDir := "output"
  retainFailed := false

/-- The working directory of a job. -/
def jobDir (s : JobSettings) (id : String) : String := Path.join s.workDir id

/-- The file that a job renders. -/
def outputPath (s : JobSettings) (id : String) : String := Path.join s.outputDir (id ++ ".mp4")

/-- Reads job settings. -/
def read : Reader JobSettings := fun d => do
  let (workDir, outputDir, retainFailed, ()) ←
    (Fields.cons (.orElse "work_dir" Reader.text standard.workDir) <|
      .cons (.orElse "output_dir" Reader.text standard.outputDir) <|
      .cons (.orElse "retain_failed_workdir" Reader.bool false) .nil).readFront d
  pure { workDir, outputDir, retainFailed }

/-- The data form of job settings. -/
def toDatum (s : JobSettings) : Datum :=
  .ofMembers
    [("work_dir", .text s.workDir), ("output_dir", .text s.outputDir),
     ("retain_failed_workdir", .bool s.retainFailed)]

end JobSettings

end Compositor
