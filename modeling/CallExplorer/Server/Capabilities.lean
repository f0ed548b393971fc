/-
What a server tells about itself.

The answer to the first request names the server and what it is able to do. Of
its capabilities only the one for call hierarchies matters here. It is a flag or
an object, and the object may say whether the server reports its progress.

What all the others must look like is a matter of the protocol. The reader of this
module skips them; a client takes any reader (`Client.introductions`), also one
that refuses an introduction for what it says of some other capability.
-/
import CallExplorer.Json.Record

namespace CallExplorer

namespace Server

/-- Whether and how a server offers call hierarchies. -/
inductive HierarchySupport where
  | simple (offered : Bool)
  | detailed (reportsProgress : Option Bool)
  deriving DecidableEq, Repr

namespace HierarchySupport

/-- The flag of a value, if it is one. -/
def flag? : Json → Option Bool
  | .bool b => some b
  | _ => none

/-- The support that a value describes. -/
def ofJson? : Json → Option HierarchySupport
  | .bool b => some (.simple b)
  | .object members =>
    match (Json.object members).get? "workDoneProgress" with
    | none => some (.detailed none)
    | some .null => some (.detailed none)
    | some v => (flag? v).map fun b => .detailed (some b)
  | _ => none

/-- Reads what is said about call hierarchies. -/
def decoder : Decoder HierarchySupport := fun o d => do
  match ofJson? (← Decoder.any o d) with
  | some s => .ok s
  | none => .error (.noVariant "CallHierarchyServerCapability")

/-- The support as a value. -/
def json : HierarchySupport → Json
  | .simple offered => .bool offered
  | .detailed reportsProgress =>
    .object (Json.optional "workDoneProgress" (reportsProgress.map .bool))

end HierarchySupport

/-- What a server is called. -/
structure Identity where
  name : String
  version : Option String
  deriving DecidableEq, Repr

namespace Identity

/-- The fields of an identity. -/
def fields : Fields (String × Option String × Unit) (Option String × Option (Option String) × Unit) :=
  .cons (.required "name" .text) <| .cons (.optional "version" .text) .nil

/-- Reads an identity. -/
def decoder : Decoder Identity :=
  (fields.decode "ServerInfo").map fun (name, version, ()) => ⟨name, version⟩

/-- An identity as a value. -/
def json (i : Identity) : Json :=
  .object ([("name", .text i.name)] ++ Json.optional "version" (i.version.map .text))

end Identity

/-- What a server tells about itself when a client first turns to it. -/
structure Introduction where
  hierarchies : Option HierarchySupport
  identity : Option Identity
  deriving DecidableEq, Repr

namespace Introduction

/-- The fields of the capabilities. -/
def capabilityFields :
    Fields (Option HierarchySupport × Unit) (Option (Option HierarchySupport) × Unit) :=
  .cons (.optional "callHierarchyProvider" HierarchySupport.decoder) .nil

/-- Reads the capabilities. -/
def capabilities : Decoder (Option HierarchySupport) :=
  (capabilityFields.decode "ServerCapabilities").map fun (support, ()) => support

/-- The fields of an introduction. -/
def fields :
    Fields (Option HierarchySupport × Option Identity × Unit)
      (Option (Option HierarchySupport) × Option (Option Identity) × Unit) :=
  .cons (.required "capabilities" capabilities) <|
  .cons (.optional "serverInfo" Identity.decoder) .nil

/-- Reads an introduction, and skips all capabilities but the one for call hierarchies. -/
def decoder : Decoder Introduction :=
  (fields.decode "InitializeResult").map fun (hierarchies, identity, ()) => ⟨hierarchies, identity⟩

end Introduction

end Server

end CallExplorer
