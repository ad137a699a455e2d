import LiveControl.Digest.Sha256
import LiveControl.FileTree
import LiveControl.Json.Decode
import LiveControl.Text.AsciiCase
import LiveControl.Task

namespace LiveControl

structure Fingerprint where
  /-- The stem of the module in lowercase and the first sixteen digits of the digest. -/
  id : String
  sha256 : String
  moduleName : String
  size : UInt64
  processId : Option UInt32
  deriving DecidableEq, Repr

namespace Fingerprint

/-- The fingerprint of a module with the given bytes. -/
def ofBytes (moduleName : String) (bytes : List UInt8) (processId : Option UInt32) : Fingerprint :=
  let digest := Sha256.digest bytes
  let stem := Text.asciiLower ((Path.stem? moduleName).getD moduleName)
  { id := stem ++ "_" ++ Sha256.hexText (digest.take 8)
    sha256 := Sha256.hexText digest
    moduleName := moduleName
    size := UInt64.ofNat bytes.length
    processId := processId }

/-- The fingerprint of the file under a path. -/
def ofFile (files : Files) (path : String) (processId : Option UInt32) : Except Fault Fingerprint :=
  match files.read path with
  | .error cause => .error (.file cause)
  | .ok bytes => .ok (ofBytes ((Path.name? path).getD path) bytes.toList processId)

/-- Fingerprints from files, as a service that changes nothing. -/
def fileService {σ : Type} (files : Files) (path : String) (processId : Option UInt32) :
    Task σ Fingerprint :=
  Task.ofExcept (ofFile files path processId)

def toJson (f : Fingerprint) : Json := .obj (Json.present [
  ("fingerprint_id", some (.str f.id)),
  ("sha256", some (.str f.sha256)),
  ("module_name", some (.str f.moduleName)),
  ("file_size", some (.ofNat f.size.toNat)),
  ("process_id", f.processId.map fun n => .ofNat n.toNat)])

def ofJson? (j : Json) : Option Fingerprint := do
  let fields ← j.fields?
  some {
    id := ← Json.required fields "fingerprint_id" Json.str?
    sha256 := ← Json.required fields "sha256" Json.str?
    moduleName := ← Json.required fields "module_name" Json.str?
    size := ← Json.required fields "file_size" Json.uint64?
    processId := ← Json.optional fields "process_id" Json.uint32? }

end Fingerprint

/-- The variant of a profile that fits the binary, and how sure that is. -/
structure VariantResolution where
  requested : String
  resolved : String
  reason : String
  confidence : Float
  deriving DecidableEq

namespace VariantResolution

/-- The requested profile is the variant. -/
def asRequested (profileId : String) : VariantResolution :=
  ⟨profileId, profileId, "explicit_profile_selection", 1.0⟩

def toJson (v : VariantResolution) : Json := .obj [
  ("requested_profile_id", .str v.requested),
  ("resolved_profile_id", .str v.resolved),
  ("reason_code", .str v.reason),
  ("confidence", .float v.confidence)]

def ofJson? (j : Json) : Option VariantResolution := do
  let fields ← j.fields?
  some {
    requested := ← Json.required fields "requested_profile_id" Json.str?
    resolved := ← Json.required fields "resolved_profile_id" Json.str?
    reason := ← Json.required fields "reason_code" Json.str?
    confidence := ← Json.required fields "confidence" Json.number? }

end VariantResolution
end LiveControl
