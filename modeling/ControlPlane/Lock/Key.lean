import ControlPlane.Json.Reader

/-!
# Lock keys

A key names what a lock protects: an item, the scope the item belongs to, and, where they matter, a
stage and a region. Its id joins the four with underscores, with placeholders for what is absent.
-/
namespace ControlPlane

/-- A text that is none of the names of a kind. -/
structure UnknownName where
  /-- What the text was to name. -/
  kind : String
  /-- The text. -/
  value : String
deriving DecidableEq, Repr

namespace UnknownName

/-- The wording of the error. -/
def message (unknown : UnknownName) : String :=
  "unknown " ++ unknown.kind ++ ": '" ++ unknown.value ++ "'"

end UnknownName

/-- What kind of item a lock protects. -/
inductive LockScope where
  | account
  | dataset
  | bucketResource
  | catalogSyncResource
  | encryptionKey
deriving DecidableEq, Repr

namespace LockScope

/-- The scopes in order. -/
def all : List LockScope := [account, dataset, bucketResource, catalogSyncResource, encryptionKey]

/-- The name of a scope. -/
def name : LockScope → String
  | account => "account"
  | dataset => "dataset"
  | bucketResource => "s3_resource"
  | catalogSyncResource => "glue_sync_resource"
  | encryptionKey => "kms_key"

/-- The scope of a name. -/
def ofName? (name : String) : Except UnknownName LockScope :=
  match all.find? fun scope => scope.name = name with
  | some scope => .ok scope
  | none => .error ⟨"lock scope", name⟩

/-- Read a scope by its name. -/
def reader : JsonReader LockScope := JsonReader.choice (all.map fun scope => (scope.name, scope))

end LockScope

/-- The stage of an item. -/
inductive Stage where
  | dev
  | int
  | prod
deriving DecidableEq, Repr

namespace Stage

/-- The stages in order. -/
def all : List Stage := [dev, int, prod]

/-- The name of a stage. -/
def name : Stage → String
  | dev => "dev"
  | int => "int"
  | prod => "prod"

/-- The stage of a name. -/
def ofName? (name : String) : Except UnknownName Stage :=
  match all.find? fun stage => stage.name = name with
  | some stage => .ok stage
  | none => .error ⟨"stage", name⟩

/-- Read a stage by its name. -/
def reader : JsonReader Stage := JsonReader.choice (all.map fun stage => (stage.name, stage))

end Stage

/-- What a lock protects. -/
structure LockKey where
  /-- The name of what is protected. -/
  item : String
  /-- What kind of thing it is. -/
  scope : LockScope
  /-- The region, if it matters. -/
  region : Option String
  /-- The stage, if it matters. -/
  stage : Option Stage
deriving DecidableEq, Repr

namespace LockKey

/-- Stands for a stage that is absent. -/
def noStage : String := "no_stage"

/-- Stands for a region that is absent. -/
def noRegion : String := "no_region"

/-- The name of a stage, or what stands for it. -/
def stageName : Option Stage → String
  | some stage => stage.name
  | none => noStage

/-- The id of the lock: item, scope, stage and region. -/
def id (key : LockKey) : String :=
  key.item ++ "_" ++ key.scope.name ++ "_" ++ stageName key.stage ++ "_" ++
    key.region.getD noRegion

end LockKey

end ControlPlane
