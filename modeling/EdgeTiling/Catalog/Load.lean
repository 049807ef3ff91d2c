import EdgeTiling.Catalog.Json
import EdgeTiling.Catalog.Ron
import EdgeTiling.Host

/-! Catalogs from files. -/

namespace EdgeTiling.Catalog

inductive Format
  | ron
  | json
  deriving DecidableEq, Repr

namespace Format

def tag : Format → String
  | .ron => "RON"
  | .json => "JSON"

def name : Format → String
  | .ron => "Rusty Object Notation (RON)"
  | .json => "JSON"

def entries? (f : Format) (text : String) : Option (List Entry) :=
  match f with
  | .ron => (ronEntries text).toOption
  | .json => (jsonEntries text).toOption

end Format

inductive LoadError
  | unreadable (cause : FileError)
  | malformed (format : Format)
  | invalid (cause : DocumentError)
  | unknownExtension (extension : String) (path : Path)
  | noExtension (path : Path)

def LoadError.message : LoadError → String
  | .unreadable cause => "I/O error reading file: " ++ cause.message
  | .malformed format =>
    s!"Failed to parse rules format (e.g., RON/JSON): {format.tag} deserialization failed"
  | .invalid cause => "Invalid rule data: " ++ cause.message
  | .unknownExtension extension path =>
    s!"Unsupported rule file format: unknown extension '.{extension}' for {path}"
  | .noExtension path => s!"Unsupported rule file format: no extension on {path}"

def formatOf (p : Path) : Except LoadError Format :=
  match p.kind? with
  | some "ron" => .ok .ron
  | some "json" => .ok .json
  | some other => .error (.unknownExtension other p)
  | none => .error (.noExtension p)

def parse (format : Format) (text : String) : Except LoadError Catalog :=
  match format.entries? text with
  | none => .error (.malformed format)
  | some entries =>
    match ofEntries entries with
    | .ok c => .ok c
    | .error e => .error (.invalid e)

variable {m : Type → Type} [Monad m] [Host m]

def load (p : Path) : m (Except LoadError Catalog) := do
  match formatOf p with
  | .error e => return .error e
  | .ok format =>
    match ← Host.read p with
    | .error e => return .error (.unreadable e)
    | .ok text =>
      match parse format text with
      | .error e => return .error e
      | .ok c => do
        Host.note c.parsedRecord
        Host.note ⟨.info, "edgewave_rules::loader",
          s!"Loaded {c.size} tiles from {p} ({format.name})"⟩
        return .ok c

end EdgeTiling.Catalog
