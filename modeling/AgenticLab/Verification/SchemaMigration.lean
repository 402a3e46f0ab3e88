import AgenticLab.Model.SchemaMigration

/-! # Schema migrations compose

A migration on the heap follows the migration of the values, which composes. -/

namespace AgenticLab.SchemaMigration

variable {registry : MigrationRegistry} {heap after last : Heap} {payload result : Payload}

def StepCall.returns (call : StepCall) : Except Raised Payload :=
  match call.outcome with
  | .raised failure => .error (if failure.cls.isException then stepFailed else failure)
  | .returnedArgument => .ok call.argumentAfter
  | .returned (.obj members) => .ok members
  | .returned _ => .error stepInvalid

def checkStep (key : MigrationKey) (migrated : Payload) : Except Raised Payload :=
  match extractSchemaVersion (.obj migrated) with
  | .error _ => .error stepInvalid
  | .ok version => do
      raiseIf (version ≠ key.2) stepInvalid
      return migrated

variable (registry) in
def stepValue (payload : Payload) (key : MigrationKey) : Except Raised Payload :=
  match registry.lookup key with
  | none => .error missingSchemaMigration
  | some step => do
      let migrated ← (step payload).returns
      checkStep key migrated

variable (registry) in
def pathValue (path : List MigrationKey) (payload : Payload) : Except Raised Payload :=
  path.foldlM (stepValue registry) payload

variable {key : MigrationKey}

theorem checkStep_eq_ok_iff : checkStep key payload = .ok result ↔
    extractSchemaVersion (.obj payload) = .ok key.2 ∧ result = payload := by
  unfold checkStep
  cases extractSchemaVersion (.obj payload) with
  | error failure => simp
  | ok version =>
    dsimp only
    rw [raiseIf_bind_eq_ok, not_not, pure_eq_ok, Except.ok.injEq, Except.ok.injEq,
      eq_comm (a := payload)]

theorem stepValue_eq_ok (h : stepValue registry payload key = .ok result) :
    extractSchemaVersion (.obj result) = .ok key.2 ∧ ∃ step, registry.lookup key = some step := by
  unfold stepValue at h
  split at h
  · cases h
  · rename_i step hstep
    obtain ⟨migrated, _, hcheck⟩ := bind_eq_ok.mp h
    obtain ⟨hversion, rfl⟩ := checkStep_eq_ok_iff.mp hcheck
    exact ⟨hversion, step, hstep⟩

theorem pathValue_cons {path : List MigrationKey} :
    pathValue registry (key :: path) payload = .ok result ↔
      ∃ middle, stepValue registry payload key = .ok middle ∧
        pathValue registry path middle = .ok result := by
  rw [pathValue, List.foldlM_cons, bind_eq_ok]
  rfl

theorem pathValue_append {path rest : List MigrationKey} :
    pathValue registry (path ++ rest) payload = .ok result ↔
      ∃ middle, pathValue registry path payload = .ok middle ∧
        pathValue registry rest middle = .ok result := by
  rw [pathValue, List.foldlM_append, bind_eq_ok]
  rfl

variable {a b c : ℤ}

theorem migrationKeys_self : migrationKeys a a = [] := by simp [migrationKeys]

theorem migrationKeys_append (hab : a ≤ b) (hbc : b ≤ c) :
    migrationKeys a c = migrationKeys a b ++ migrationKeys b c := by
  obtain ⟨first, rfl⟩ := Int.le.dest hab
  obtain ⟨second, rfl⟩ := Int.le.dest hbc
  have hall : ((a + first + second) - a).toNat = first + second := by omega
  have hfirst : ((a + first) - a).toNat = first := by omega
  have hsecond : ((a + first + second) - (a + first)).toNat = second := by omega
  rw [migrationKeys, migrationKeys, migrationKeys, hall, hfirst, hsecond, List.range_add,
    List.map_append, List.map_map]
  congr 1
  apply List.map_congr_left
  intro offset _
  simp only [Function.comp_apply, Int.natCast_add, Prod.mk.injEq]
  omega

theorem migrationKeys_succ (h : a ≤ b) :
    migrationKeys a (b + 1) = migrationKeys a b ++ [(b, b + 1)] := by
  rw [migrationKeys_append h (by omega : b ≤ b + 1)]
  congr 1
  have hone : (b + 1 - b).toNat = 1 := by omega
  rw [migrationKeys, hone]
  simp

theorem version_of_pathValue (hab : a ≤ b) (hversion : extractSchemaVersion (.obj payload) = .ok a)
    (h : pathValue registry (migrationKeys a b) payload = .ok result) :
    extractSchemaVersion (.obj result) = .ok b := by
  rcases Int.lt_or_eq_of_le hab with hlt | rfl
  · have hlast : a ≤ b - 1 := by omega
    have hkeys := migrationKeys_succ hlast
    rw [Int.sub_add_cancel] at hkeys
    rw [hkeys, pathValue_append] at h
    obtain ⟨middle, _, hstep⟩ := h
    rw [pathValue_cons] at hstep
    obtain ⟨other, hother, hnil⟩ := hstep
    obtain rfl := Except.ok.inj hnil
    exact (stepValue_eq_ok hother).1
  · rw [migrationKeys_self] at h
    obtain rfl := Except.ok.inj h
    exact hversion

theorem lookup_of_pathValue {path : List MigrationKey}
    (h : pathValue registry path payload = .ok result) :
    ∀ key ∈ path, ∃ step, registry.lookup key = some step := by
  induction path generalizing payload with
  | nil => exact nofun
  | cons key path ih =>
    obtain ⟨middle, hstep, hrest⟩ := pathValue_cons.mp h
    exact List.forall_mem_cons.mpr ⟨(stepValue_eq_ok hstep).2, ih hrest⟩

/-! ## The heap -/

structure Extends (heap after : Heap) : Prop where
  next_le : heap.next ≤ after.next
  objects : ∀ reference < heap.next, after.objects reference = heap.objects reference

theorem Extends.refl (heap : Heap) : Extends heap heap := ⟨le_refl _, fun _ _ => rfl⟩

theorem Extends.trans (h : Extends heap after) (hlast : Extends after last) :
    Extends heap last where
  next_le := h.next_le.trans hlast.next_le
  objects reference hreference :=
    (hlast.objects reference (hreference.trans_le h.next_le)).trans (h.objects reference hreference)

theorem extends_allocate (heap : Heap) (payload : Payload) :
    Extends heap (heap.allocate payload) where
  next_le := Nat.le_succ _
  objects _ hreference := Function.update_of_ne hreference.ne ..

@[simp] theorem objects_allocate : (heap.allocate payload).objects heap.next = payload :=
  Function.update_self ..

@[simp] theorem next_allocate : (heap.allocate payload).next = heap.next + 1 := rfl

@[simp] theorem applied_allocate : (heap.allocate payload).applied = heap.applied := rfl

def Ends (expected : Except Raised Payload) (applied : List MigrationKey)
    (outcome : Except Raised ℕ) (after : Heap) : Prop :=
  (∃ failure, expected = .error failure ∧ outcome = .error failure) ∨
    ∃ reference, outcome = .ok reference ∧ reference < after.next ∧
      expected = .ok (after.objects reference) ∧ after.applied = applied

variable {base : Heap} {reference : ℕ} {key : MigrationKey} {step : MigrationFunction}

theorem callStep_ends (hbase : Extends base heap) (hfresh : base.next ≤ reference)
    (hreference : reference < heap.next) :
    (callStep key step reference).Post heap fun outcome after => Extends base after ∧
      Ends (step (heap.objects reference)).returns (heap.applied ++ [key]) outcome after := by
  have hstore : Extends base
      { heap.store reference (step (heap.objects reference)).argumentAfter with
        applied := heap.applied ++ [key] } := by
    refine ⟨hbase.next_le, fun other hother => ?_⟩
    exact (Function.update_of_ne (hother.trans_le hfresh).ne ..).trans (hbase.objects other hother)
  refine Stateful.post_get_bind (Stateful.post_set_bind ?_)
  cases hcall : (step (heap.objects reference)).outcome with
  | raised failure =>
    exact ⟨hstore, .inl ⟨_, by rw [StepCall.returns, hcall], rfl⟩⟩
  | returnedArgument =>
    have hvalue : (heap.store reference
        (step (heap.objects reference)).argumentAfter).objects reference =
        (step (heap.objects reference)).argumentAfter := Function.update_self ..
    refine ⟨hstore, .inr ⟨reference, rfl, hreference, ?_, rfl⟩⟩
    rw [StepCall.returns, hcall]
    exact congrArg Except.ok hvalue.symm
  | returned value =>
    cases value with
    | obj members =>
      refine ⟨hstore.trans (extends_allocate _ members), .inr ⟨_, rfl, Nat.lt_succ_self _, ?_, rfl⟩⟩
      rw [StepCall.returns, hcall]
      exact congrArg Except.ok objects_allocate.symm
    | atom value => exact ⟨hstore, .inl ⟨_, by rw [StepCall.returns, hcall], rfl⟩⟩
    | arr values => exact ⟨hstore, .inl ⟨_, by rw [StepCall.returns, hcall], rfl⟩⟩

theorem deepcopy_post : (deepcopy reference).Post heap fun outcome after =>
    outcome = .ok heap.next ∧ after = heap.allocate (heap.objects reference) := ⟨rfl, rfl⟩

theorem runMigrationStep_ends (hbase : Extends base heap) (hstep : registry.lookup key = some step) :
    (runMigrationStep step key reference).Post heap fun outcome after => Extends base after ∧
      Ends (stepValue registry (heap.objects reference) key) (heap.applied ++ [key]) outcome
        after := by
  have hcopy : Extends base (heap.allocate (heap.objects reference)) :=
    hbase.trans (extends_allocate heap _)
  have hcall := @callStep_ends _ base heap.next key step hcopy hbase.next_le
    (Nat.lt_succ_self heap.next)
  rw [objects_allocate] at hcall
  refine deepcopy_post.bind ?_ fun _ _ h => nomatch h.1
  rintro argument copied ⟨hargument, rfl⟩
  obtain rfl := Except.ok.inj hargument
  refine hcall.bind ?_ ?_
  · rintro migrated after ⟨hextends, ⟨failure, _, hraised⟩ | ⟨other, hok, hlt, hvalue, happlied⟩⟩
    · cases hraised
    · obtain rfl := Except.ok.inj hok
      have hexpected : stepValue registry (heap.objects reference) key =
          checkStep key (after.objects migrated) := by
        simp only [stepValue, hstep, hvalue, ok_bind]
      refine Stateful.post_get_bind ?_
      rw [hexpected, checkStep]
      cases hversion : extractSchemaVersion (.obj (after.objects migrated)) with
      | error failure => exact ⟨hextends, .inl ⟨stepInvalid, rfl, rfl⟩⟩
      | ok version =>
        dsimp only
        by_cases hsame : version = key.2
        · have hpass : raiseIf (version ≠ key.2) stepInvalid = .ok () :=
            raiseIf_eq_ok.mpr (not_not.mpr hsame)
          rw [hpass]
          exact ⟨hextends, .inr ⟨migrated, rfl, hlt, rfl, happlied⟩⟩
        · have hraise : raiseIf (version ≠ key.2) stepInvalid = .error stepInvalid := if_pos hsame
          rw [hraise]
          exact ⟨hextends, .inl ⟨stepInvalid, rfl, rfl⟩⟩
  · rintro failure after ⟨hextends, ⟨other, hexpected, hraised⟩ | ⟨_, hok, _⟩⟩
    · obtain rfl := Except.error.inj hraised
      refine ⟨hextends, .inl ⟨failure, ?_, rfl⟩⟩
      simp only [stepValue, hstep, hexpected, error_bind]
    · cases hok

theorem runSteps_ends (hbase : Extends base heap) {path : List MigrationKey}
    (hreference : reference < heap.next) :
    (runSteps registry path reference).Post heap fun outcome after => Extends base after ∧
      Ends (pathValue registry path (heap.objects reference)) (heap.applied ++ path) outcome
        after := by
  induction path generalizing heap reference with
  | nil => exact ⟨hbase, .inr ⟨reference, rfl, hreference, rfl, (List.append_nil _).symm⟩⟩
  | cons key path ih =>
    rw [runSteps]
    cases hlookup : registry.lookup key with
    | none =>
      refine ⟨hbase, .inl ⟨missingSchemaMigration, ?_, rfl⟩⟩
      simp [pathValue, stepValue, hlookup]
    | some step =>
      refine (runMigrationStep_ends hbase hlookup).bind ?_ ?_
      · rintro migrated after ⟨hextends, ⟨failure, _, hraised⟩ | ⟨other, hok, hlt, hvalue, happlied⟩⟩
        · cases hraised
        · obtain rfl := Except.ok.inj hok
          have hrest := ih hextends hlt
          rw [happlied, List.append_assoc] at hrest
          rw [pathValue, List.foldlM_cons, hvalue]
          exact hrest
      · rintro failure after ⟨hextends, ⟨other, hexpected, hraised⟩ | ⟨_, hok, _⟩⟩
        · obtain rfl := Except.error.inj hraised
          refine ⟨hextends, .inl ⟨failure, ?_, rfl⟩⟩
          rw [pathValue, List.foldlM_cons, hexpected]
          rfl
        · cases hok

/-! ## Migrations -/

variable {minimum target version : ℤ}

variable (registry minimum target) in
def Admits (version : ℤ) : Prop :=
  1 ≤ target ∧ 1 ≤ minimum ∧ minimum ≤ target ∧
    validateMigrationRegistry registry = .ok () ∧ minimum ≤ version ∧ version ≤ target

theorem one_le_of_extract {value : Json.Value} (h : extractSchemaVersion value = .ok version) :
    1 ≤ version := by
  unfold extractSchemaVersion at h
  split at h
  · split at h
    · split_ifs at h with hvalid
      obtain rfl := Except.ok.inj h
      simpa [isValidVersion] using hvalid
    · cases h
  · cases h

variable (registry minimum target heap reference) in
/-- What a migration leaves and returns: it returns exactly when the arguments are admitted and the
path can be followed. -/
structure Migrates (outcome : Except Raised ℕ) (after : Heap) : Prop where
  keeps : Extends heap after
  sound : ∀ migrated, outcome = .ok migrated → ∃ version,
    extractSchemaVersion (.obj (heap.objects reference)) = .ok version ∧
    Admits registry minimum target version ∧ migrated < after.next ∧
    pathValue registry (migrationKeys version target) (heap.objects reference) =
      .ok (after.objects migrated) ∧
    after.applied = heap.applied ++ migrationKeys version target
  complete : ∀ version result,
    extractSchemaVersion (.obj (heap.objects reference)) = .ok version →
    Admits registry minimum target version →
    pathValue registry (migrationKeys version target) (heap.objects reference) = .ok result →
    ∃ migrated, outcome = .ok migrated

theorem migrates_of_error {failure : Raised} (hkeeps : Extends heap after)
    (h : ∀ version, extractSchemaVersion (.obj (heap.objects reference)) = .ok version →
      Admits registry minimum target version →
      ∀ result, pathValue registry (migrationKeys version target) (heap.objects reference) ≠
        .ok result) :
    Migrates registry heap reference minimum target (.error failure) after :=
  ⟨hkeeps, nofun, fun version result hversion hadmits hpath =>
    absurd hpath (h version hversion hadmits result)⟩

theorem migrates_check_bind {x : Except Raised Unit} {f : Unit → MigrationProgram ℕ}
    (h : ∀ version, extractSchemaVersion (.obj (heap.objects reference)) = .ok version →
      Admits registry minimum target version → x = .ok ())
    (hok : x = .ok () → (f ()).Post heap (Migrates registry heap reference minimum target)) :
    ((liftM x : MigrationProgram Unit) >>= f).Post heap
      (Migrates registry heap reference minimum target) := by
  refine Stateful.Post.lift_bind (fun _ => hok) fun failure hfailure => ?_
  refine migrates_of_error (.refl heap) fun version hversion hadmits => ?_
  rw [h version hversion hadmits] at hfailure
  cases hfailure

theorem validateVersionValue_eq_ok_iff : validateVersionValue version = .ok () ↔ 1 ≤ version := by
  simp [validateVersionValue, isValidVersion]

theorem buildMigrationPath_of_le (hversion : 1 ≤ version) (h : version ≤ target) :
    buildMigrationPath version target = .ok (migrationKeys version target) := by
  have hsource : validateVersionValue version = .ok () := validateVersionValue_eq_ok_iff.mpr hversion
  have htarget : validateVersionValue target = .ok () :=
    validateVersionValue_eq_ok_iff.mpr (hversion.trans h)
  rw [buildMigrationPath, hsource, htarget, ok_bind, ok_bind]
  exact raiseIf_bind_eq_ok.mpr ⟨not_lt.mpr h, rfl⟩

theorem migrate_migrates :
    (migrateSchemaPayload registry minimum reference target).Post heap
      (Migrates registry heap reference minimum target) := by
  refine migrates_check_bind
    (fun _ _ hadmits => validateVersionValue_eq_ok_iff.mpr hadmits.1) fun htarget => ?_
  refine migrates_check_bind
    (fun _ _ hadmits => validateVersionValue_eq_ok_iff.mpr hadmits.2.1) fun hminimum => ?_
  refine migrates_check_bind
    (fun _ _ hadmits => raiseIf_eq_ok.mpr (not_lt.mpr hadmits.2.2.1)) fun hle => ?_
  refine migrates_check_bind (fun _ _ hadmits => hadmits.2.2.2.1) fun hregistry => ?_
  refine Stateful.post_get_bind ?_
  rcases hversion : extractSchemaVersion (.obj (heap.objects reference)) with failure | version
  · refine migrates_of_error (.refl heap) fun version hother => ?_
    rw [hversion] at hother
    cases hother
  have hsame : ∀ other, extractSchemaVersion (.obj (heap.objects reference)) = .ok other →
      version = other := fun other hother => Except.ok.inj (hversion.symm.trans hother)
  refine migrates_check_bind (fun other hother hadmits => raiseIf_eq_ok.mpr
    (not_lt.mpr (hsame other hother ▸ hadmits.2.2.2.2.1))) fun hsupported => ?_
  refine migrates_check_bind (fun other hother hadmits => raiseIf_eq_ok.mpr
    (not_lt.mpr (hsame other hother ▸ hadmits.2.2.2.2.2))) fun hupward => ?_
  have hadmits : Admits registry minimum target version :=
    ⟨validateVersionValue_eq_ok_iff.mp htarget, validateVersionValue_eq_ok_iff.mp hminimum,
      not_lt.mp (raiseIf_eq_ok.mp hle), hregistry, not_lt.mp (raiseIf_eq_ok.mp hsupported),
      not_lt.mp (raiseIf_eq_ok.mp hupward)⟩
  have hpath := buildMigrationPath_of_le (one_le_of_extract hversion) hadmits.2.2.2.2.2
  refine deepcopy_post.bind ?_ fun _ _ h => nomatch h.1
  rintro current copied ⟨hcurrent, rfl⟩
  obtain rfl := Except.ok.inj hcurrent
  have hcopied := extends_allocate heap (heap.objects reference)
  rw [hpath]
  refine Stateful.Post.lift_bind (fun path hkeys => ?_) fun _ hraised => nomatch hraised
  obtain rfl := Except.ok.inj hkeys
  by_cases hempty : migrationKeys version target = []
  · rw [if_pos hempty]
    refine ⟨hcopied, ?_, fun _ _ _ _ _ => ⟨heap.next, rfl⟩⟩
    rintro migrated hmigrated
    obtain rfl := Except.ok.inj hmigrated
    refine ⟨version, hversion, hadmits, Nat.lt_succ_self _, ?_, ?_⟩
    · rw [hempty]
      exact congrArg Except.ok objects_allocate.symm
    · rw [hempty, List.append_nil]
      rfl
  · rw [if_neg hempty]
    have hsteps := @runSteps_ends registry _ heap heap.next hcopied (migrationKeys version target)
      (Nat.lt_succ_self heap.next)
    rw [objects_allocate, applied_allocate] at hsteps
    refine hsteps.bind ?_ ?_
    · rintro migrated after ⟨hextends, ⟨_, _, hraised⟩ | ⟨other, hok, hlt, hvalue, happlied⟩⟩
      · cases hraised
      · obtain rfl := Except.ok.inj hok
        have hlast := version_of_pathValue hadmits.2.2.2.2.2 hversion hvalue
        refine Stateful.post_get_bind ?_
        rw [hlast]
        refine Stateful.Post.lift_bind (fun last hend => ?_) fun _ hraised => nomatch hraised
        obtain rfl := Except.ok.inj hend
        have hpass : raiseIf (target ≠ target) stepInvalid = .ok () :=
          raiseIf_eq_ok.mpr (not_not.mpr rfl)
        rw [hpass]
        refine ⟨hextends, ?_, fun _ _ _ _ _ => ⟨migrated, rfl⟩⟩
        rintro answer hanswer
        obtain rfl := Except.ok.inj hanswer
        exact ⟨version, hversion, hadmits, hlt, hvalue, happlied⟩
    · rintro failure after ⟨hextends, ⟨_, hexpected, _⟩ | ⟨_, hok, _⟩⟩
      · refine migrates_of_error hextends fun other hother _ answer hanswer => ?_
        rw [← hsame other hother, hexpected] at hanswer
        cases hanswer
      · cases hok

/-- A migration to `target` returns an object with the members `result`. -/
def Yields (registry : MigrationRegistry) (minimum target : ℤ) (reference : ℕ) (heap : Heap)
    (result : Payload) : Prop :=
  ∃ migrated after, migrateSchemaPayload registry minimum reference target heap =
    (.ok migrated, after) ∧ after.objects migrated = result

theorem yields_iff : Yields registry minimum target reference heap result ↔
    ∃ version, extractSchemaVersion (.obj (heap.objects reference)) = .ok version ∧
      Admits registry minimum target version ∧
      pathValue registry (migrationKeys version target) (heap.objects reference) = .ok result := by
  have hmigrates : Migrates registry heap reference minimum target _ _ := migrate_migrates
  constructor
  · rintro ⟨migrated, after, hrun, rfl⟩
    rw [hrun] at hmigrates
    obtain ⟨version, hversion, hadmits, _, hpath, _⟩ := hmigrates.sound migrated rfl
    exact ⟨version, hversion, hadmits, hpath⟩
  · rintro ⟨version, hversion, hadmits, hpath⟩
    obtain ⟨migrated, hok⟩ := hmigrates.complete version result hversion hadmits hpath
    obtain ⟨other, hother, _, _, hresult, _⟩ := hmigrates.sound migrated hok
    obtain rfl := Except.ok.inj (hversion.symm.trans hother)
    exact ⟨migrated, _, Prod.ext hok rfl, Except.ok.inj (hresult.symm.trans hpath)⟩

theorem path_compose (hversion : extractSchemaVersion (.obj payload) = .ok a) (hab : a ≤ b)
    (hbc : b ≤ c) :
    (Admits registry minimum c a ∧
        pathValue registry (migrationKeys a c) payload = .ok result) ↔
      Admits registry minimum b a ∧ ∃ middle,
        pathValue registry (migrationKeys a b) payload = .ok middle ∧
        Admits registry minimum c b ∧
        pathValue registry (migrationKeys b c) middle = .ok result := by
  have hone := one_le_of_extract hversion
  rw [migrationKeys_append hab hbc, pathValue_append]
  unfold Admits
  constructor
  · rintro ⟨⟨_, hminimum, _, hregistry, hle, _⟩, middle, hfirst, hsecond⟩
    exact ⟨⟨by omega, hminimum, by omega, hregistry, hle, hab⟩, middle, hfirst,
      ⟨by omega, hminimum, by omega, hregistry, by omega, hbc⟩, hsecond⟩
  · rintro ⟨⟨_, _, _, _, hle, _⟩, middle, hfirst, ⟨hc, hminimum, htarget, hregistry, _, _⟩, hsecond⟩
    exact ⟨⟨hc, hminimum, htarget, hregistry, hle, hab.trans hbc⟩, middle, hfirst, hsecond⟩

/-- A migration over two versions is one to the first of them and from there to the second. What
succeeds has called each step once, in order, and no migration changes the payload. -/
theorem migrations_compose (registry : MigrationRegistry) (minimum : ℤ) (heap : Heap)
    (hversion : extractSchemaVersion (.obj payload) = .ok a) (hab : a ≤ b) (hbc : b ≤ c) :
    (∀ result, Yields registry minimum c heap.next (heap.allocate payload) result ↔
        ∃ middle after, migrateSchemaPayload registry minimum heap.next b (heap.allocate payload) =
            (.ok middle, after) ∧
          Yields registry minimum c middle after result) ∧
      (∀ migrated after, migrateSchemaPayload registry minimum heap.next c (heap.allocate payload) =
          (.ok migrated, after) →
        extractSchemaVersion (.obj (after.objects migrated)) = .ok c ∧
          after.applied = heap.applied ++ migrationKeys a c ∧
          ∀ key ∈ migrationKeys a c, ∃ step, registry.lookup key = some step) ∧
      ∀ target, (migrateSchemaPayload registry minimum heap.next target
        (heap.allocate payload)).2.objects heap.next = payload := by
  have hstart : extractSchemaVersion (.obj ((heap.allocate payload).objects heap.next)) = .ok a := by
    rw [objects_allocate, hversion]
  refine ⟨?_, ?_, ?_⟩
  · intro result
    rw [yields_iff]
    constructor
    · rintro ⟨version, hother, hadmits, hpath⟩
      obtain rfl := Except.ok.inj (hstart.symm.trans hother)
      rw [objects_allocate] at hpath
      obtain ⟨hfirst, middle, hmiddle, hsecond, hrest⟩ :=
        (path_compose hversion hab hbc).mp ⟨hadmits, hpath⟩
      rw [← @objects_allocate heap payload] at hmiddle
      obtain ⟨migrated, after, hrun, rfl⟩ := yields_iff.mpr ⟨a, hstart, hfirst, hmiddle⟩
      rw [objects_allocate] at hmiddle
      exact ⟨migrated, after, hrun,
        yields_iff.mpr ⟨b, version_of_pathValue hab hversion hmiddle, hsecond, hrest⟩⟩
    · rintro ⟨migrated, after, hrun, hyields⟩
      obtain ⟨version, hother, hfirst, hmiddle⟩ := yields_iff.mp ⟨migrated, after, hrun, rfl⟩
      obtain rfl := Except.ok.inj (hstart.symm.trans hother)
      rw [objects_allocate] at hmiddle
      obtain ⟨second, hsecondVersion, hsecond, hrest⟩ := yields_iff.mp hyields
      obtain rfl := Except.ok.inj
        ((version_of_pathValue hab hversion hmiddle).symm.trans hsecondVersion)
      obtain ⟨hadmits, hpath⟩ :=
        (path_compose hversion hab hbc).mpr ⟨hfirst, _, hmiddle, hsecond, hrest⟩
      refine ⟨a, hstart, hadmits, ?_⟩
      rwa [objects_allocate]
  · intro migrated after hrun
    have hmigrates : Migrates registry (heap.allocate payload) heap.next minimum c _ _ :=
      migrate_migrates
    rw [hrun] at hmigrates
    obtain ⟨version, hother, hadmits, _, hpath, happlied⟩ := hmigrates.sound migrated rfl
    obtain rfl := Except.ok.inj (hstart.symm.trans hother)
    exact ⟨version_of_pathValue hadmits.2.2.2.2.2 hstart hpath, happlied, lookup_of_pathValue hpath⟩
  · intro target
    have hmigrates : Migrates registry (heap.allocate payload) heap.next minimum target _ _ :=
      migrate_migrates
    rw [hmigrates.keeps.objects heap.next (Nat.lt_succ_self _), objects_allocate]

def payloadOf (version : ℤ) : Payload := [("schema_version", .atom (.int version))]

def twoSteps : MigrationRegistry :=
  [((1, 2), fun _ => ⟨payloadOf 2, .returnedArgument⟩),
    ((2, 3), fun _ => ⟨[], .returned (.obj (payloadOf 3))⟩)]

theorem migrations_compose_twoSteps :
    (∀ result, Yields twoSteps 1 3 0 (Heap.allocate ⟨fun _ => [], 0, []⟩ (payloadOf 1)) result ↔
        ∃ middle after, migrateSchemaPayload twoSteps 1 0 2
            (Heap.allocate ⟨fun _ => [], 0, []⟩ (payloadOf 1)) = (.ok middle, after) ∧
          Yields twoSteps 1 3 middle after result) ∧
      (∀ migrated after, migrateSchemaPayload twoSteps 1 0 3
          (Heap.allocate ⟨fun _ => [], 0, []⟩ (payloadOf 1)) = (.ok migrated, after) →
        extractSchemaVersion (.obj (after.objects migrated)) = .ok 3 ∧
          after.applied = [] ++ migrationKeys 1 3 ∧
          ∀ key ∈ migrationKeys 1 3, ∃ step, twoSteps.lookup key = some step) ∧
      ∀ target, (migrateSchemaPayload twoSteps 1 0 target
        (Heap.allocate ⟨fun _ => [], 0, []⟩ (payloadOf 1))).2.objects 0 = payloadOf 1 :=
  migrations_compose twoSteps 1 ⟨fun _ => [], 0, []⟩ (by decide) (by decide) (by decide)

end AgenticLab.SchemaMigration
