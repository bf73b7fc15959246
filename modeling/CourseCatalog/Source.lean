import CourseCatalog.Catalog.Build
import CourseCatalog.Host.Basic
import CourseCatalog.Sample
/-!
# Sources of datasets

A dataset comes from a file or, when none is set, from the sample. A file that is not
there, is no text, or has a fault gives no catalog at all.
-/

namespace CourseCatalog

/-- Where the dataset comes from. -/
inductive Source
  | sample
  | file (path : String)
  deriving DecidableEq, Repr

/-- Why a source gives no catalog. -/
inductive SourceError
  | notFound (path : String)
  | unreadable (path : String)
  | malformed (source : String) (fault : Json.Fault)

/-- The wording of a dataset with a fault. -/
def Json.Fault.datasetMessage (f : Json.Fault) : String :=
  "malformed dataset: " ++ f.message

/-- The wording of an error. -/
def SourceError.message : SourceError → String
  | notFound path => "dataset not found: " ++ path
  | unreadable path => "operation failed: read dataset: " ++ path
  | malformed source fault => "load dataset " ++ source ++ ": " ++ fault.datasetMessage

namespace Source

/-- A dataset that is set is a file. -/
def ofSetting : Option String → Source
  | some path => file path
  | none => sample

/-- The name of the source. -/
def name : Source → String
  | sample => "<bundled>"
  | file path => path

/-- The text of the dataset. -/
def text (host : Host) : Source → Except SourceError String
  | sample => .ok Sample.text
  | file path =>
    if (host.entry path).isFile then
      match (host.entry path).text with
      | .ok s => .ok s
      | .error _ => .error (.unreadable path)
    else .error (.notFound path)

/-- The catalog of the dataset. -/
def load (host : Host) (source : Source) : Logged (Except SourceError Catalog) :=
  match source.text host with
  | .error e => pure (.error e)
  | .ok text => do
    Logged.note (.read text.utf8ByteSize source.name)
    match ← Catalog.ofText text 0 with
    | .error fault => pure (.error (.malformed source.name fault))
    | .ok catalog => do
      Logged.note (.loaded source.name catalog.size)
      pure (.ok catalog)

end Source

end CourseCatalog
