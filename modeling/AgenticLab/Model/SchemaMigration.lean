import AgenticLab.Model.Fields

/-! # Migration of schema payloads

`app/schema_migration.py`. Payloads are objects on a heap, so that a step may change the one that
it is given. -/

namespace AgenticLab.SchemaMigration

/-! ## Failures -/

def migrationError (name message : String) : Raised := ⟨.external name .exception, message⟩

def invalidSchemaVersion : Raised :=
  migrationError "InvalidSchemaVersionError" "The schema payload has an invalid version."

def invalidMigrationRegistry : Raised :=
  migrationError "InvalidMigrationRegistryError" "The schema migration registry is invalid."

def schemaDowngrade : Raised :=
  migrationError "SchemaDowngradeError" "Schema downgrade migrations are not supported."

def unsupportedSchemaVersion : Raised :=
  migrationError "UnsupportedSchemaVersionError" "The schema version is not supported."

def missingSchemaMigration : Raised :=
  migrationError "MissingSchemaMigrationError" "A required schema migration step is not registered."

def stepFailed : Raised :=
  migrationError "SchemaMigrationStepError" "A schema migration step failed."

def stepInvalid : Raised :=
  migrationError "SchemaMigrationStepError" "A schema migration step produced an invalid result."

/-! ## Payloads and steps -/

/-- The members of a `dict[str, object]` with data as `json` knows it. -/
abbrev Payload := List (String × Json.Value)

def isValidVersion (version : ℤ) : Bool := 1 ≤ version

def validateVersionValue (version : ℤ) : Except Raised Unit :=
  raiseIf (isValidVersion version = false) invalidSchemaVersion

def extractSchemaVersion : Json.Value → Except Raised ℤ
  | .obj members =>
    match members.lookup "schema_version" with
    | some (.atom (.int version)) =>
      if isValidVersion version then .ok version else .error invalidSchemaVersion
    | _ => .error invalidSchemaVersion
  | _ => .error invalidSchemaVersion

abbrev MigrationKey := ℤ × ℤ

inductive StepOutcome where
  | raised (failure : Raised)
  | returnedArgument
  | returned (value : Json.Value)

structure StepCall where
  argumentAfter : Payload
  outcome : StepOutcome

abbrev MigrationFunction := Payload → StepCall

abbrev MigrationRegistry := List (MigrationKey × MigrationFunction)

def validateMigrationRegistry : MigrationRegistry → Except Raised Unit
  | [] => .ok ()
  | ((source, target), _) :: registry => do
      raiseIf (isValidVersion source = false ∨ isValidVersion target = false)
        invalidMigrationRegistry
      raiseIf (target ≠ source + 1) invalidMigrationRegistry
      validateMigrationRegistry registry

/-- `tuple((version, version + 1) for version in range(source, target))` -/
def migrationKeys (source target : ℤ) : List MigrationKey :=
  (List.range (target - source).toNat).map fun (offset : ℕ) =>
    (source + offset, source + offset + 1)

def buildMigrationPath (source target : ℤ) : Except Raised (List MigrationKey) := do
  validateVersionValue source
  validateVersionValue target
  raiseIf (target < source) schemaDowngrade
  return migrationKeys source target

/-! ## The heap -/

/-- The objects in use are those below `next`. `applied` lists the steps that were called. -/
structure Heap where
  objects : ℕ → Payload
  next : ℕ
  applied : List MigrationKey

def Heap.allocate (heap : Heap) (payload : Payload) : Heap :=
  { heap with objects := Function.update heap.objects heap.next payload, next := heap.next + 1 }

def Heap.store (heap : Heap) (reference : ℕ) (payload : Payload) : Heap :=
  { heap with objects := Function.update heap.objects reference payload }

abbrev MigrationProgram := Stateful Heap Raised

def allocate (payload : Payload) : MigrationProgram ℕ := do
  let heap ← Stateful.get
  Stateful.set (heap.allocate payload)
  return heap.next

/-- `deepcopy` of an object: a new one with the same members. -/
def deepcopy (reference : ℕ) : MigrationProgram ℕ := do
  let heap ← Stateful.get
  allocate (heap.objects reference)

def callStep (key : MigrationKey) (step : MigrationFunction) (reference : ℕ) :
    MigrationProgram ℕ := do
  let heap ← Stateful.get
  let call := step (heap.objects reference)
  Stateful.set { heap.store reference call.argumentAfter with applied := heap.applied ++ [key] }
  match call.outcome with
  | .raised failure => Stateful.raise (if failure.cls.isException then stepFailed else failure)
  | .returnedArgument => return reference
  | .returned (.obj members) => allocate members
  | .returned _ => Stateful.raise stepInvalid

def runMigrationStep (step : MigrationFunction) (key : MigrationKey) (reference : ℕ) :
    MigrationProgram ℕ := do
  let argument ← deepcopy reference
  let migrated ← callStep key step argument
  let heap ← Stateful.get
  match extractSchemaVersion (.obj (heap.objects migrated)) with
  | .error _ => Stateful.raise stepInvalid
  | .ok version =>
    raiseIf (version ≠ key.2) stepInvalid
    return migrated

def runSteps (registry : MigrationRegistry) : List MigrationKey → ℕ → MigrationProgram ℕ
  | [], reference => return reference
  | key :: path, reference => do
      match registry.lookup key with
      | none => Stateful.raise missingSchemaMigration
      | some step =>
        let migrated ← runMigrationStep step key reference
        runSteps registry path migrated

/-- `migrate_schema_payload` on the object at `reference`. -/
def migrateSchemaPayload (registry : MigrationRegistry) (minimumSupportedVersion : ℤ)
    (reference : ℕ) (targetVersion : ℤ) : MigrationProgram ℕ := do
  validateVersionValue targetVersion
  validateVersionValue minimumSupportedVersion
  raiseIf (targetVersion < minimumSupportedVersion) invalidSchemaVersion
  validateMigrationRegistry registry
  let heap ← Stateful.get
  let sourceVersion ← extractSchemaVersion (.obj (heap.objects reference))
  raiseIf (sourceVersion < minimumSupportedVersion) unsupportedSchemaVersion
  raiseIf (targetVersion < sourceVersion) schemaDowngrade
  let current ← deepcopy reference
  let path ← buildMigrationPath sourceVersion targetVersion
  if path = [] then return current
  let migrated ← runSteps registry path current
  let after ← Stateful.get
  let version ← extractSchemaVersion (.obj (after.objects migrated))
  raiseIf (version ≠ targetVersion) stepInvalid
  return migrated

end AgenticLab.SchemaMigration
