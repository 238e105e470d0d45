import ConversationMemory.Json.Decoder

/-!
# Memory records

A record says where the service of one memory is found and what became of the last look at it.

* `MemoryRecord`: metadata, spec and status; `MemoryRecord.target` names it in messages.
* `AddressSpec`: a literal address or references to where the address is kept.
* `MemoryRecord.toJson`, `MemoryRecord.decoder`: written form and reading; keys are in camel case
  and absent optional fields are left out.
-/

namespace ConversationMemory

/-- A key in a collection of values. -/
structure KeyRef where
  name : String
  key : String
  deriving DecidableEq, Repr, Inhabited

/-- A service of the cluster. -/
structure ServiceRef where
  name : String
  namespaceName : Option String := none
  port : Option String := none
  path : Option String := none
  deriving DecidableEq, Repr, Inhabited

/-- The places in which an address can be kept. -/
structure ValueFrom where
  configMapKeyRef : Option KeyRef := none
  secretKeyRef : Option KeyRef := none
  serviceRef : Option ServiceRef := none
  deriving DecidableEq, Repr, Inhabited

/-- How the service is found: by a literal address, or by where the address is kept. -/
structure AddressSpec where
  value : Option String := none
  valueFrom : Option ValueFrom := none
  deriving DecidableEq, Repr, Inhabited

/-- Name, identity and version of a record. -/
structure RecordMetadata where
  name : String
  namespaceName : String
  uid : String := ""
  /-- Raised by one with every write. -/
  resourceVersion : UInt64 := 0
  deriving DecidableEq, Repr, Inhabited

/-- What is wanted of a memory. -/
structure MemorySpec where
  address : AddressSpec
  description : Option String := none
  deriving DecidableEq, Repr, Inhabited

/-- What was found about a memory. -/
structure MemoryStatus where
  lastResolvedAddress : Option String := none
  message : Option String := none
  deriving DecidableEq, Repr, Inhabited

/-- A memory: what is wanted of it and what was found. -/
structure MemoryRecord where
  metadata : RecordMetadata
  spec : MemorySpec
  status : MemoryStatus := {}
  deriving DecidableEq, Repr, Inhabited

namespace AddressSpec

/-- A literal address. -/
def literal (url : String) : AddressSpec where
  value := some url

/-- An address kept in a secret. -/
def secret (name key : String) : AddressSpec where
  valueFrom := some { secretKeyRef := some ⟨name, key⟩ }

/-- An address kept in a config map. -/
def configMap (name key : String) : AddressSpec where
  valueFrom := some { configMapKeyRef := some ⟨name, key⟩ }

/-- The address of a service. -/
def service (service : ServiceRef) : AddressSpec where
  valueFrom := some { serviceRef := some service }

end AddressSpec

namespace MemoryRecord

/-- A fresh record. -/
def create (name namespaceName : String) (address : AddressSpec) : MemoryRecord where
  metadata := { name, namespaceName }
  spec := { address }

/-- The record under an identity. -/
def withUid (record : MemoryRecord) (uid : String) : MemoryRecord :=
  { record with metadata := { record.metadata with uid } }

/-- The record with an address that counts as resolved. -/
def withResolvedAddress (record : MemoryRecord) (address : String) : MemoryRecord :=
  { record with status := { record.status with lastResolvedAddress := some address } }

/-- The record at a version. -/
def atVersion (record : MemoryRecord) (version : UInt64) : MemoryRecord :=
  { record with metadata := { record.metadata with resourceVersion := version } }

/-- Namespace and name, by which messages name the record. -/
def target (record : MemoryRecord) : String :=
  record.metadata.namespaceName ++ "/" ++ record.metadata.name

end MemoryRecord

/-! ## Written form -/

namespace Json

/-- A field that is left out when there is no value. -/
def optionalField {α : Type} (key : String) (write : α → Json) : Option α → Fields
  | none => []
  | some a => [(key, write a)]

end Json

open Json (optionalField)

/-- The reference as an object. -/
def KeyRef.toJson (ref : KeyRef) : Json :=
  .object [("name", .string ref.name), ("key", .string ref.key)]

/-- The reference as an object. -/
def ServiceRef.toJson (ref : ServiceRef) : Json :=
  .object (("name", .string ref.name) :: optionalField "namespace" .string ref.namespaceName ++
    optionalField "port" .string ref.port ++ optionalField "path" .string ref.path)

/-- The places as an object. -/
def ValueFrom.toJson (source : ValueFrom) : Json :=
  .object (optionalField "configMapKeyRef" KeyRef.toJson source.configMapKeyRef ++
    optionalField "secretKeyRef" KeyRef.toJson source.secretKeyRef ++
    optionalField "serviceRef" ServiceRef.toJson source.serviceRef)

/-- The address specification as an object. -/
def AddressSpec.toJson (spec : AddressSpec) : Json :=
  .object (optionalField "value" .string spec.value ++
    optionalField "valueFrom" ValueFrom.toJson spec.valueFrom)

/-- The metadata as an object. -/
def RecordMetadata.toJson (metadata : RecordMetadata) : Json :=
  .object [("name", .string metadata.name), ("namespace", .string metadata.namespaceName),
    ("uid", .string metadata.uid), ("resourceVersion", .nat metadata.resourceVersion.toNat)]

/-- The spec as an object. -/
def MemorySpec.toJson (spec : MemorySpec) : Json :=
  .object (("address", spec.address.toJson) :: optionalField "description" .string spec.description)

/-- The status as an object. -/
def MemoryStatus.toJson (status : MemoryStatus) : Json :=
  .object (optionalField "lastResolvedAddress" .string status.lastResolvedAddress ++
    optionalField "message" .string status.message)

/-- The record as an object. -/
def MemoryRecord.toJson (record : MemoryRecord) : Json :=
  .object [("metadata", record.metadata.toJson), ("spec", record.spec.toJson),
    ("status", record.status.toJson)]

/-! ## Reading -/

open Json Json.Decoder

/-- Reads a reference to a key. -/
def KeyRef.decoder : Decoder KeyRef :=
  record "KeyRef"
    [required "name" text fun name ref => { ref with name },
      required "key" text fun key ref => { ref with key }]
    ⟨"", ""⟩

/-- Reads a reference to a service. -/
def ServiceRef.decoder : Decoder ServiceRef :=
  record "ServiceRef"
    [required "name" text fun name ref => { ref with name },
      defaulted "namespace" text.optional fun namespaceName ref => { ref with namespaceName },
      defaulted "port" text.optional fun port ref => { ref with port },
      defaulted "path" text.optional fun path ref => { ref with path }]
    { name := "" }

/-- Reads the places in which an address can be kept. -/
def ValueFrom.decoder : Decoder ValueFrom :=
  record "ValueFrom"
    [defaulted "configMapKeyRef" KeyRef.decoder.optional
        fun configMapKeyRef source => { source with configMapKeyRef },
      defaulted "secretKeyRef" KeyRef.decoder.optional
        fun secretKeyRef source => { source with secretKeyRef },
      defaulted "serviceRef" ServiceRef.decoder.optional
        fun serviceRef source => { source with serviceRef }]
    {}

/-- Reads an address specification. -/
def AddressSpec.decoder : Decoder AddressSpec :=
  record "AddressSpec"
    [defaulted "value" text.optional fun value spec => { spec with value },
      defaulted "valueFrom" ValueFrom.decoder.optional
        fun valueFrom spec => { spec with valueFrom }]
    {}

/-- Reads metadata. -/
def RecordMetadata.decoder : Decoder RecordMetadata :=
  record "RecordMetadata"
    [required "name" text fun name metadata => { metadata with name },
      required "namespace" text fun namespaceName metadata => { metadata with namespaceName },
      defaulted "uid" text fun uid metadata => { metadata with uid },
      defaulted "resourceVersion" nat64
        fun resourceVersion metadata => { metadata with resourceVersion }]
    { name := "", namespaceName := "" }

/-- Reads a spec. -/
def MemorySpec.decoder : Decoder MemorySpec :=
  record "MemorySpec"
    [required "address" AddressSpec.decoder fun address spec => { spec with address },
      defaulted "description" text.optional fun description spec => { spec with description }]
    { address := {} }

/-- Reads a status. -/
def MemoryStatus.decoder : Decoder MemoryStatus :=
  record "MemoryStatus"
    [defaulted "lastResolvedAddress" text.optional
        fun lastResolvedAddress status => { status with lastResolvedAddress },
      defaulted "message" text.optional fun message status => { status with message }]
    {}

/-- Reads a record. -/
def MemoryRecord.decoder : Decoder MemoryRecord :=
  record "MemoryRecord"
    [required "metadata" RecordMetadata.decoder fun metadata record => { record with metadata },
      required "spec" MemorySpec.decoder fun spec record => { record with spec },
      defaulted "status" MemoryStatus.decoder fun status record => { record with status }]
    { metadata := { name := "", namespaceName := "" }, spec := { address := {} } }

end ConversationMemory
