import Corpus.Batch.Error
import Corpus.Json.Written

/-!
# Writing the corpus

The records of a batch become one JSON file. The directories around it are made if they are
missing. The file is opened as the last step that can fail, so a failure leaves every file as it
was.
-/

set_option autoImplicit false

namespace Corpus

/-- Writes records to a file, as JSON. Directories may have been made also where the file could
not be written. -/
def writeRecords (d : Disk) (target : Path) (records : List Record) :
    Except CorpusError Unit × Disk :=
  match d.writeText target (Json.writtenRecords records) with
  | (.ok (), written) => (.ok (), written)
  | (.error e, made) => (.error (.write target e), made)

end Corpus
