import LiveControl.CommandLine.Columns
import LiveControl.Compatibility
import LiveControl.Extension.Extender
import LiveControl.Extension.Operation
import LiveControl.Json.Printer
import LiveControl.Policy.Document

namespace LiveControl.CommandLine

/-- Lines, each with its end. -/
def linesText (lines : List String) : String := String.join (lines.map fun l => l ++ "\n")

/-- A document over several lines. -/
def documentText (j : Json) : String := linesText [j.pretty]

def ratingColumns (ratings : List Rating) : List String :=
  columns ["ACTION", "STATE", "REASON", "CONFIDENCE", "NOTE"] (ratings.map fun r =>
    [r.action, r.state.text, r.reason, Decimal.fixed 2 r.confidence, r.note.getD ""])

def ratingsText (profile : Profile) (ratings : List Rating) : String :=
  linesText (if ratings.isEmpty then ["Profile '" ++ profile.id ++ "' declares no actions."]
    else ratingColumns ratings)

def ratingsDocument (profile : Profile) (session : Session) (ratings : List Rating) : Json :=
  Json.sorted (.obj [
    ("profileId", .str profile.id),
    ("runtimeMode", .str session.mode.text),
    ("actions", .arr (ratings.map Rating.toJson))])

def yesOrNo (b : Bool) : String := if b then "yes" else "no"

def compatibilityText (r : CompatibilityReport) : String :=
  linesText ([
    "Profile:          " ++ r.profileId,
    "Session:          " ++ (if r.sessionAttached then "attached" else "detached"),
    "Runtime mode:     " ++ r.runtimeMode,
    "Dependencies:     " ++ (r.dependencyStatus.map DependencyStatus.text).getD "-",
    "Critical unresolved: " ++ toString r.unresolvedCritical,
    "Promotion ready:  " ++ yesOrNo r.promotionReady,
    ""] ++
    (if r.actions.isEmpty then [] else ratingColumns r.actions) ++
    (if r.notes.isEmpty then [] else "" :: r.notes.map fun note => "note: " ++ note))

def modesText (o : Operation) : String :=
  if o.allowedModes.isEmpty then "any" else String.intercalate "," (o.allowedModes.map Mode.text)

def operationsText (probe : Probe) : String :=
  linesText (columns ["OPERATION", "KIND", "MODES", "EXTENDER"] (Operation.catalog.map fun o =>
    [o.id, if o.isMutation then "mutation" else "read", modesText o,
      if probe.isAvailable o.id then "yes" else "-"]))

def operationsDocument (probe : Probe) : Json :=
  Json.sorted (.arr (Operation.catalog.map fun o => .obj [
    ("id", .str o.id),
    ("isMutation", .bool o.isMutation),
    ("allowedModes", .ofNames (o.allowedModes.map Mode.text)),
    ("extenderAvailable", .bool (probe.isAvailable o.id))]))

def reviewText (findings : List Policy.Finding) : String :=
  linesText (if findings.isEmpty then ["Config is valid. No warnings."]
    else findings.map fun f => "[" ++ f.severity.text ++ "] " ++ f.message)

def reviewDocument (findings : List Policy.Finding) : Json :=
  Json.sorted (.obj [("warnings", .arr (findings.map Policy.Finding.toJson))])

end LiveControl.CommandLine
