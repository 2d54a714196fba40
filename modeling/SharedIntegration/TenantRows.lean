import SharedIntegration.MigrationReruns

/-!
# The form of tenant rows

`create_tenant` checks the fields of the row that it inserts. The rows that `_ensure_tenant` and the import of a
legacy database insert have the form that `create_tenant` demands as long as the tenant ids that they are given
have it: `_ensure_tenant` takes the id for the slug as well, and the import computes a slug that is always valid.
-/

namespace SharedIntegration

open Relational Rerun FindingLifecycle Isolation Identity Migration Transition

/-! ### Ids and slugs -/

/-- A row as `create_tenant` makes it. -/
structure TenantRow.WellFormed (row : TenantRow) : Prop where
  id : isIdentifier row.id = true
  slug : isSlug row.slug = true
  name : PyString.strip row.name ≠ "" ∧ row.name.length ≤ 255
  retention : 1 ≤ row.retentionDays ∧ row.retentionDays ≤ 3650

/-- Letters and digits are no spaces. -/
theorem isSpace_of_isAlphanum {c : Char} (h : c.isAlphanum = true) : PyText.isSpace c.toNat = false := by
  rw [PyString.isAlphanum_iff] at h
  simp only [PyText.isSpace, Bool.or_eq_false_iff, Bool.and_eq_false_iff, decide_eq_false_iff_not]
  omega

/-- A text that begins with a letter or a digit is not blank. -/
theorem strip_ne_empty {text : String} {c : Char} {rest : List Char} (h : text.toList = c :: rest)
    (hc : c.isAlphanum = true) : PyString.strip text ≠ "" := by
  intro hblank
  have hspace : PyText.isSpace c.toNat = false := isSpace_of_isAlphanum hc
  have hchars := congrArg String.toList hblank
  unfold PyString.strip at hchars
  rw [String.toList_ofList, h, List.dropWhile_cons_of_neg (by simp [hspace])] at hchars
  have hall := List.rdropWhile_eq_nil_iff.mp hchars c List.mem_cons_self
  rw [hspace] at hall
  cases hall

/-- The first character of an identifier is a letter or a digit. -/
theorem isIdentifier_cons {text : String} (h : isIdentifier text = true) :
    text.length ≤ 128 ∧ ∃ c rest, text.toList = c :: rest ∧ c.isAlphanum = true := by
  unfold isIdentifier at h
  rw [Bool.and_eq_true, decide_eq_true_eq] at h
  refine ⟨h.1, ?_⟩
  cases htext : text.toList with
  | nil =>
    rw [htext] at h
    cases h.2
  | cons c rest =>
    have hchars := h.2
    rw [htext] at hchars
    exact ⟨c, rest, rfl, ((Bool.and_eq_true _ _).mp hchars).1⟩

/-- A slug is an identifier. -/
theorem isIdentifier_of_isSlug {text : String} (h : isSlug text = true) : isIdentifier text = true := by
  have hplain : ∀ c : Char, (c.isLower || c.isDigit) = true → c.isAlphanum = true := by
    intro c hc
    change ((c.isUpper || c.isLower) || c.isDigit) = true
    rcases (Bool.or_eq_true _ _).mp hc with hlower | hdigit
    · rw [hlower, Bool.or_true, Bool.true_or]
    · rw [hdigit, Bool.or_true]
  simp only [isSlug, Bool.and_eq_true, decide_eq_true_eq] at h
  obtain ⟨⟨⟨hlength, hall⟩, hhead⟩, -⟩ := h
  unfold isIdentifier
  rw [Bool.and_eq_true, decide_eq_true_eq]
  refine ⟨hlength, ?_⟩
  cases htext : text.toList with
  | nil =>
    rw [htext] at hhead
    cases hhead
  | cons c rest =>
    rw [htext] at hhead hall
    dsimp only
    rw [Bool.and_eq_true, List.all_eq_true]
    refine ⟨hplain c hhead, fun d hd => ?_⟩
    have hslug := List.all_eq_true.mp hall d (List.mem_cons_of_mem c hd)
    rcases (Bool.or_eq_true _ _).mp hslug with hd' | hdash
    · rw [hplain d hd', Bool.true_or]
    · rw [of_decide_eq_true hdash]
      rfl

/-- The default row of a tenant has its id for slug and name. -/
theorem wellFormed_default {tenantId : String} (h : isSlug tenantId = true) (now : Instant) :
    TenantRow.WellFormed ⟨tenantId, tenantId, tenantId, "active", 90, now, now⟩ := by
  have hid : isIdentifier tenantId = true := isIdentifier_of_isSlug h
  obtain ⟨hlength, c, rest, htext, hc⟩ := isIdentifier_cons hid
  constructor
  · exact hid
  · exact h
  · refine ⟨strip_ne_empty htext hc, ?_⟩
    change tenantId.length ≤ 255
    omega
  · change 1 ≤ 90 ∧ 90 ≤ 3650
    omega

/-! ### Slugs of imported tenants -/

/-- The characters of a slug. -/
def isSlugChar (c : Char) : Bool := isPlain c || c = '-'

/-- Only characters of a slug are left after the replacement. -/
theorem dashed_all (chars : List Char) : (dashed chars).all isSlugChar = true := by
  fun_induction dashed chars with
  | case1 => rfl
  | case2 c rest hc ih => rw [List.all_cons, ih, isSlugChar, hc, Bool.true_or, Bool.true_and]
  | case3 c hc d rest hd ih => rw [List.all_cons, ih]; rfl
  | case4 c hc d rest hd ih => exact ih
  | case5 c hc => rfl

/-- The middle part of a slug consists of its characters. -/
theorem slugBase_all {core : CoreLibrary} (lib : MigrationLibrary core) (tenantId : String) :
    (slugBase lib tenantId).toList.all isSlugChar = true := by
  unfold slugBase
  dsimp only
  split
  · decide
  · rw [String.toList_ofList, List.all_eq_true]
    intro c hc
    apply List.all_eq_true.mp (dashed_all (lib.casefold tenantId).toList)
    have hleft := (List.rdropWhile_prefix _ _).subset hc
    exact (List.dropWhile_suffix _).subset hleft

/-- The short hash of a text: twelve hexadecimal digits. -/
theorem shortHash_hex {core : CoreLibrary} (lib : MigrationLibrary core) (value : String) :
    (shortHash lib value).toList.length = 12 ∧ (shortHash lib value).toList.all isPlain = true := by
  obtain ⟨hlength, hhex⟩ := lib.sha256_hex value
  unfold shortHash PyString.slice
  rw [String.toList_ofList]
  constructor
  · rw [List.length_take, String.length_toList]
    omega
  · rw [List.all_eq_true]
    intro c hc
    have hdigit : isLowerHex c = true := List.all_eq_true.mp hhex c (List.mem_of_mem_take hc)
    unfold isLowerHex at hdigit
    unfold isPlain
    rcases (Bool.or_eq_true _ _).mp hdigit with hnumber | hletter
    · rw [hnumber, Bool.or_true]
    · have hlower : c.isLower = true := by
        rw [Bool.and_eq_true, decide_eq_true_eq, decide_eq_true_eq] at hletter
        rw [PyString.isLower_iff]
        omega
      rw [hlower, Bool.true_or]

/-- `_legacy_slug` computes a slug. -/
theorem isSlug_legacySlug {core : CoreLibrary} (lib : MigrationLibrary core) (tenantId : String) :
    isSlug (legacySlug lib tenantId) = true := by
  obtain ⟨hlength, hplain⟩ := shortHash_hex lib tenantId
  let middle := (slugBase lib tenantId).toList.take 96
  have hmiddle : ∀ c ∈ middle, isSlugChar c = true := fun c hc =>
    List.all_eq_true.mp (slugBase_all lib tenantId) c (List.mem_of_mem_take hc)
  have htext : (legacySlug lib tenantId).toList =
      ('l' :: ("egacy-".toList ++ middle ++ ['-'])) ++ (shortHash lib tenantId).toList := by
    unfold legacySlug PyString.slice
    simp only [String.toList_append, String.toList_ofList, List.append_assoc, List.cons_append]
    rfl
  have hne : (shortHash lib tenantId).toList ≠ [] := List.ne_nil_of_length_pos (by omega)
  unfold isSlug
  simp only [Bool.and_eq_true, decide_eq_true_eq]
  refine ⟨⟨⟨?_, ?_⟩, ?_⟩, ?_⟩
  · have htake : middle.length ≤ 96 := List.length_take_le _ _
    have hprefix : "egacy-".toList.length = 6 := by decide
    rw [← String.length_toList, htext, List.length_append, List.length_cons, List.length_append, List.length_append,
      hprefix, hlength, List.length_singleton]
    omega
  · rw [htext]
    change List.all _ isSlugChar = true
    rw [List.all_append, List.all_cons, List.all_append, List.all_append, List.all_eq_true.mpr hmiddle]
    have hhash : (shortHash lib tenantId).toList.all isSlugChar = true := by
      rw [List.all_eq_true] at hplain ⊢
      intro c hc
      rw [isSlugChar, hplain c hc, Bool.true_or]
    rw [hhash]
    decide
  · rw [htext]
    rfl
  · rw [htext, List.getLast?_append, List.getLast?_eq_some_getLast hne, Option.some_or, Option.any_some]
    exact List.all_eq_true.mp hplain _ (List.getLast_mem hne)

/-- The row of an imported tenant has this form if its id has. -/
theorem wellFormed_imported {core : CoreLibrary} (lib : MigrationLibrary core) {tenantId : String}
    (h : isIdentifier tenantId = true) (now : Instant) : (importedTenant lib now tenantId).WellFormed := by
  obtain ⟨hlength, -⟩ := isIdentifier_cons h
  constructor
  · exact h
  · exact isSlug_legacySlug lib tenantId
  · have hname : ("Imported tenant " ++ tenantId).toList = 'I' :: ("mported tenant ".toList ++ tenantId.toList) := by
      rw [String.toList_append]
      rfl
    refine ⟨strip_ne_empty hname (by decide), ?_⟩
    have hprefix : "Imported tenant ".length = 16 := by decide
    change ("Imported tenant " ++ tenantId).length ≤ 255
    rw [String.length_append, hprefix]
    omega
  · change 1 ≤ 90 ∧ 90 ≤ 3650
    omega

/-! ### Steps -/

variable {core : CoreLibrary} {text : TextLibrary} {secrets : SecretLibrary} {lib : MigrationLibrary core}
  {db db' : Database}

/-- The form of all tenant rows. -/
def TenantsWellFormed (db : Database) : Prop := ∀ row ∈ db.tenants.rows, row.WellFormed

/-- A row of this form may be inserted. -/
theorem TenantsWellFormed.insert {tenants : Table TenantRow TenantRow.Conflict} (h : TenantsWellFormed db)
    {row : TenantRow} (hrow : row.WellFormed) (hinsert : db.tenants.insert row = some tenants) :
    TenantsWellFormed { db with tenants } := by
  intro row' hrow'
  change row' ∈ tenants.rows at hrow'
  rw [(Table.insert_eq_some hinsert).1] at hrow'
  rcases List.mem_append.mp hrow' with hold | hnew
  · exact h row' hold
  · rw [List.mem_singleton.mp hnew]
    exact hrow

/-- `_ensure_tenant` inserts a row of this form if the tenant id is a slug. -/
theorem TenantsWellFormed.ensure {tenants : Table TenantRow TenantRow.Conflict} (h : TenantsWellFormed db)
    {tenantId : String} {now : Instant} (hadmits : Stored db tenantId ∨ isSlug tenantId = true)
    (hensure : SqlJobs.ensureTenant db.tenants tenantId now = some tenants) : TenantsWellFormed { db with tenants } := by
  rcases hadmits with hstored | hslug
  · rw [ensureTenant_stored hstored, Option.some.injEq] at hensure
    exact hensure ▸ h
  · rcases SqlJobs.ensureTenant_cases hensure with ⟨-, rfl⟩ | ⟨-, hinsert⟩
    · exact h
    · exact h.insert (wellFormed_default hslug now) hinsert

/-- The tenant that a call of a store makes sure of. -/
def StoreCall.ensured : StoreCall → Option String
  | .jobs call => call.ensured
  | .findings tenantId (.addForJob _ _) => some tenantId
  | .findings tenantId (.addCorrelation _) => some tenantId
  | .findings _ _ => none

/-- A call of a store leaves the tenants alone, or makes sure of one. -/
theorem StoreCall.perform_tenants (db : Database) (m : Moment) (call : StoreCall) :
    (call.perform core text db m).1.tenants = db.tenants ∨ ∃ tenantId ∈ call.ensured,
      SqlJobs.ensureTenant db.tenants tenantId m.now = some (call.perform core text db m).1.tenants := by
  cases call with
  | jobs call =>
    cases hcall : call.ensured with
    | none => exact Or.inl (perform_writes call hcall).2.tenants
    | some tenantId =>
      obtain ⟨tenants, hensure, -, hsame⟩ := @perform_ensures core db m call
      have htenants : ((StoreCall.jobs call).perform core text db m).1.tenants = tenants := hsame.tenants
      rw [htenants]
      rcases hensure with hsame | hensure
      · exact Or.inl hsame
      · have htenant : call.tenantId = tenantId := by
          cases call with
          | create => exact Option.some.inj hcall
          | _ => cases hcall
        exact Or.inr ⟨tenantId, hcall, htenant ▸ hensure⟩
  | findings tenantId call =>
    cases call with
    | addForJob finding jobId =>
      change (addForJob core text db m tenantId finding jobId).1.tenants = db.tenants ∨ ∃ id ∈ some tenantId,
        SqlJobs.ensureTenant db.tenants id m.now = some (addForJob core text db m tenantId finding jobId).1.tenants
      unfold addForJob
      split
      · next db' hstore =>
        rcases storeFinding_eq_some hstore with hlocked | ⟨-, hlost⟩
        · obtain ⟨tenants, hensure, ⟨-, findings, -, rfl⟩ | ⟨row, -, rfl⟩⟩ := storeLocked_cases hlocked
          · exact Or.inr ⟨tenantId, rfl, hensure⟩
          · exact Or.inr ⟨tenantId, rfl, hensure⟩
        · obtain ⟨row, -, rfl⟩ := storeLost_cases hlost
          exact Or.inl rfl
      · exact Or.inl rfl
    | addCorrelation correlation =>
      change (addCorrelation db m tenantId correlation).1.tenants = db.tenants ∨ ∃ id ∈ some tenantId,
        SqlJobs.ensureTenant db.tenants id m.now = some (addCorrelation db m tenantId correlation).1.tenants
      unfold addCorrelation
      split
      · next db' hinsert =>
        obtain ⟨tenants, correlations, links, hensure, -, -, rfl⟩ := insertCorrelation_eq_some hinsert
        exact Or.inr ⟨tenantId, rfl, hensure⟩
      · exact Or.inl rfl
    | updateLifecycle findingId status assignedTo actor =>
      change (updateLifecycle core db m tenantId findingId status assignedTo actor).1.tenants = db.tenants ∨ _
      unfold updateLifecycle
      split
      · exact Or.inl rfl
      · exact Or.inl rfl
    | _ => exact Or.inl rfl

/-- An identity operation keeps the form of tenant rows. -/
theorem TenantsWellFormed.move {tenants tenants' : Table TenantRow TenantRow.Conflict}
    (h : ∀ row ∈ tenants.rows, row.WellFormed) (hmove : TenantsMove tenants tenants') :
    ∀ row ∈ tenants'.rows, row.WellFormed := by
  intro row hrow
  cases hmove with
  | same => exact h row hrow
  | status tenantId status now =>
    obtain ⟨old, hold, rfl⟩ := List.mem_map.mp hrow
    obtain ⟨hid, hslug, hname, hretention⟩ := h old hold
    split <;> exact ⟨hid, hslug, hname, hretention⟩
  | created hid hslug hname hretention hinsert =>
    rw [(Table.insert_eq_some hinsert).1] at hrow
    rcases List.mem_append.mp hrow with hold | hnew
    · exact h row hold
    · rw [List.mem_singleton.mp hnew]
      exact ⟨hid, hslug, hname, hretention⟩

/-- Importing tenants keeps the form of tenant rows if the ids of the new ones have it. -/
theorem importTenants_wellFormed {now : Instant} {tenantIds : List String} {tally : Tally} (h : TenantsWellFormed db)
    (hadmits : ∀ tenantId ∈ tenantIds, Stored db tenantId ∨ isIdentifier tenantId = true)
    (himport : importAll (importTenant lib now) db tenantIds = .ok (db', tally)) : TenantsWellFormed db' := by
  have hboth : TenantsWellFormed db' ∧ Kept db db' := by
    apply importAll_invariant (fun later => TenantsWellFormed later ∧ Kept db later) _ ⟨h, Kept.refl db⟩ himport
    rintro later tenantId later' isNew hmem ⟨hlater, hkept⟩ hstep
    refine ⟨?_, hkept.trans ((importTenant_repeatable lib now).kept hstep)⟩
    obtain ⟨-, rfl, -⟩ | ⟨tenants, -, rfl, hinsert⟩ := importTenant_cases hstep
    · exact hlater
    · rcases hadmits tenantId hmem with hstored | hid
      · have hthere : Stored later tenantId := (importTenant_repeatable lib now).mono hkept hstored
        obtain ⟨row, hrow, hrowId⟩ := hthere
        exact absurd (Or.inl hrowId) ((Table.insert_eq_some hinsert).2 row hrow)
      · exact hlater.insert (wellFormed_imported lib hid now) hinsert
  exact hboth.1

/-- An import changes no tenant row once the tenants are imported. -/
theorem importTables_tenants {source : LegacySource} {now : Instant} {result : Imported}
    (h : importTables lib text source now db = .ok result) :
    ∃ db₁ tally, importAll (importTenant lib now) db source.tenantIds = .ok (db₁, tally) ∧
      result.db.tenants = db₁.tenants := by
  obtain ⟨db₁, db₂, db₃, db₄, ids, htenants, hjobs, hevents, hfindings, hcorrelations⟩ := importTables_eq_ok h
  refine ⟨db₁, result.tenants, htenants, ?_⟩
  have h₂ : db₂.tenants = db₁.tenants := by
    apply importAll_invariant (fun later => later.tenants = db₁.tenants) _ rfl hjobs
    intro later row later' isNew _ hsame hstep
    obtain ⟨-, rfl, -⟩ | ⟨_, _, _, _, jobTables, -, rfl, -⟩ := importJob_cases hstep <;> exact hsame
  have h₃ : db₃.tenants = db₁.tenants := by
    apply importAll_invariant (fun later => later.tenants = db₁.tenants) _ h₂ hevents
    intro later row later' isNew _ hsame hstep
    obtain ⟨-, rfl, -⟩ | ⟨_, _, jobTables, -, rfl, -⟩ := importJobEvent_cases hstep <;> exact hsame
  have h₄ : db₄.tenants = db₁.tenants := by
    apply importAll_invariant (fun later : Database × FindingIds => later.1.tenants = db₁.tenants) _ h₃ hfindings
    rintro ⟨later, ids⟩ row later' isNew _ hsame hstep
    obtain ⟨finding, -, ⟨existing, -, -, rfl⟩ | ⟨findings, -, hinsert, rfl⟩⟩ := importFinding_cases hstep <;> exact hsame
  apply importAll_invariant (fun later => later.tenants = db₁.tenants) _ h₄ hcorrelations
  intro later row later' isNew _ hsame hstep
  obtain ⟨payload, -, ⟨-, rfl, -⟩ | ⟨new, items, -, -, -, hinsert⟩⟩ := importCorrelation_cases hstep
  · exact hsame
  · obtain ⟨correlations, links, -, rfl⟩ := insertLinked_eq_some hinsert
    exact hsame

/-! ### Runs -/

/-- What happens to the database: a call of a repository, or the import of a legacy database. -/
inductive GatewayEvent
  | live (call : LiveCall)
  | migrate (source : LegacySource) (now : Instant)

namespace GatewayEvent

/-- The database after an event. -/
def step (secrets : SecretLibrary) (lib : MigrationLibrary core) (text : TextLibrary) (target : MigrationTarget) :
    GatewayEvent → Option MigrationTarget
  | .live call => some { target with toIdentityDatabase := call.perform secrets core text target.toIdentityDatabase }
  | .migrate source now => some (Migration.run lib text source true now target).1

/-- A tenant id for which a default row would be inserted is a slug, and one that would be imported is an
identifier. -/
def Admits (target : MigrationTarget) : GatewayEvent → Prop
  | .live (.identity _ _) => True
  | .live (.store _ call) => ∀ tenantId ∈ call.ensured, Stored target.toDatabase tenantId ∨ isSlug tenantId = true
  | .migrate source _ => ∀ tenantId ∈ source.tenantIds,
      Stored target.toDatabase tenantId ∨ isIdentifier tenantId = true

/-- An event that is admitted keeps the form of tenant rows. -/
theorem step_wellFormed {target target' : MigrationTarget} {event : GatewayEvent}
    (h : TenantsWellFormed target.toDatabase) (hadmits : Admits target event)
    (hstep : step secrets lib text target event = some target') : TenantsWellFormed target'.toDatabase := by
  cases event with
  | live call =>
    cases hstep
    cases call with
    | identity draw call =>
      change TenantsWellFormed (Identity.afterCall secrets target.toIdentityDatabase (draw, call)).toDatabase
      unfold Identity.afterCall
      split
      · next hperform => exact TenantsWellFormed.move h (Identity.perform_tenants hperform)
      · exact h
    | store m call =>
      rcases @StoreCall.perform_tenants core text target.toDatabase m call with hsame | ⟨tenantId, hmem, hensure⟩
      · intro row hrow
        exact h row (hsame ▸ hrow)
      · exact h.ensure (hadmits tenantId hmem) hensure
  | migrate source now =>
    cases hstep
    cases houtcome : (Migration.run lib text source true now target).2 with
    | error error =>
      rw [run_raised houtcome]
      exact h
    | ok report =>
      obtain ⟨-, result, auditEvents, hresult, htables, -, -⟩ := run_imports (Prod.ext rfl houtcome)
      obtain ⟨db₁, tally, himport, hsame⟩ := importTables_tenants hresult
      rw [htables]
      intro row hrow
      exact importTenants_wellFormed h hadmits himport row (hsame ▸ hrow)

end GatewayEvent

/-- A slug belongs to one tenant. -/
theorem slug_unique {row other : TenantRow} (hrow : row ∈ db.tenants.rows) (hother : other ∈ db.tenants.rows)
    (hslug : other.slug = row.slug) : other = row := by
  have hkey : ∀ a b : TenantRow, decide (a.slug = row.slug) = true → decide (b.slug = row.slug) = true →
      TenantRow.Conflict a b := by
    intro a b ha hb
    exact Or.inr ((of_decide_eq_true ha).trans (of_decide_eq_true hb).symm)
  exact db.tenants.eq_of_key _ hkey hother hrow (decide_eq_true hslug) (decide_eq_true rfl)

/-- `list_api_keys` accepts every identifier. -/
theorem listApiKeys_of_isIdentifier {db : IdentityDatabase} {tenantId : String} (h : isIdentifier tenantId = true)
    (includeRevoked : Bool) : ∃ records, listApiKeys db tenantId includeRevoked = .ok records := by
  have hchecked : validateIdentifier tenantId "tenant_id" = .ok () := require_eq_ok.mpr h
  unfold listApiKeys
  rw [hchecked]
  exact ⟨_, rfl⟩

/-- In every state of a run whose events are admitted, every tenant row has a valid id, a valid slug of its own, a
name that is not blank and not too long, and a valid retention, so that `list_api_keys` accepts its id. -/
theorem tenant_rows_well_formed (secrets : SecretLibrary) (lib : MigrationLibrary core) (text : TextLibrary)
    (events : List GatewayEvent)
    (hadmits : GuardedAlong (GatewayEvent.step secrets lib text) GatewayEvent.Admits ⟨.empty, []⟩ events) :
    AlwaysAlong (GatewayEvent.step secrets lib text) (fun target => ∀ row ∈ target.tenants.rows,
      row.WellFormed ∧ (∀ other ∈ target.tenants.rows, other.slug = row.slug → other = row) ∧
        ∀ includeRevoked, ∃ records, listApiKeys target.toIdentityDatabase row.id includeRevoked = .ok records)
      ⟨.empty, []⟩ events := by
  intro first hfirst target hrun row hrow
  obtain ⟨rest, rfl⟩ := hfirst
  have hempty : TenantsWellFormed (MigrationTarget.mk .empty []).toDatabase := fun _ hmem => absurd hmem List.not_mem_nil
  have hall : TenantsWellFormed target.toDatabase := by
    apply runSteps_guarded_invariant (fun target => TenantsWellFormed target.toDatabase) _ hempty hadmits.of_append hrun
    intro met event met' hmet hguard hstep
    exact GatewayEvent.step_wellFormed hmet hguard hstep
  have hwell : row.WellFormed := hall row hrow
  exact ⟨hwell, fun other hother hslug => slug_unique hrow hother hslug, listApiKeys_of_isIdentifier hwell.id⟩

/-- Whether an event is admitted can be computed. -/
instance (target : MigrationTarget) : DecidablePred (GatewayEvent.Admits target)
  | .live (.identity _ _) => isTrue trivial
  | .live (.store _ call) =>
    inferInstanceAs (Decidable (∀ tenantId ∈ call.ensured,
      (∃ row ∈ target.tenants.rows, row.id = tenantId) ∨ isSlug tenantId = true))
  | .migrate source _ =>
    inferInstanceAs (Decidable (∀ tenantId ∈ source.tenantIds,
      (∃ row ∈ target.tenants.rows, row.id = tenantId) ∨ isIdentifier tenantId = true))

/-- A tenant that an administrator names, one that a token names, and one that is imported. -/
def threeOrigins : List GatewayEvent :=
  [.live (.identity (Exchange.letterDraw 1 "1" 'a') (.createTenant "Acme.1" "acme" "Acme" 30 "admin")),
    .live (.store ⟨2, "2"⟩ (.jobs (.create "tenant-b" .soc (.obj []) none))),
    .migrate legacyGateway 3]

set_option maxRecDepth 8000 in
/-- The theorem applies to these three. -/
theorem tenant_rows_well_formed_threeOrigins :
    AlwaysAlong (GatewayEvent.step Exchange.plainDigests sampleLibrary FindingDict.text)
      (fun target => ∀ row ∈ target.tenants.rows, row.WellFormed ∧
        (∀ other ∈ target.tenants.rows, other.slug = row.slug → other = row) ∧
        ∀ includeRevoked, ∃ records, listApiKeys target.toIdentityDatabase row.id includeRevoked = .ok records)
      ⟨.empty, []⟩ threeOrigins :=
  tenant_rows_well_formed Exchange.plainDigests sampleLibrary FindingDict.text threeOrigins (by decide +kernel)

/-- Jobs of two tenants that only tokens name. -/
def namedByTokens : List GatewayEvent :=
  [.live (.store ⟨2, "2"⟩ (.jobs (.create "Tenant A" .soc (.obj []) none))),
    .live (.store ⟨3, "3"⟩ (.jobs (.create "tenant_a" .soc (.obj []) none)))]

set_option maxRecDepth 8000 in
/-- The first has a row that `list_api_keys` refuses; the second has an identifier, but no valid slug. -/
theorem tenant_rows_malformed :
    ∃ target, runSteps (GatewayEvent.step Exchange.plainDigests sampleLibrary FindingDict.text) ⟨.empty, []⟩
        namedByTokens = some target ∧
      target.tenants.rows.map (fun row => (row.id, isIdentifier row.id, isSlug row.slug)) =
        [("Tenant A", false, false), ("tenant_a", true, false)] ∧
      (listApiKeys target.toIdentityDatabase "Tenant A" true).isOk = false ∧
      ¬ ∀ row ∈ target.tenants.rows, row.WellFormed := by
  have hrun : (runSteps (GatewayEvent.step Exchange.plainDigests sampleLibrary FindingDict.text) ⟨.empty, []⟩
      namedByTokens).any (fun target =>
        decide (target.tenants.rows.map (fun row => (row.id, isIdentifier row.id, isSlug row.slug)) =
          [("Tenant A", false, false), ("tenant_a", true, false)]) &&
        !(listApiKeys target.toIdentityDatabase "Tenant A" true).isOk) = true := by
    decide +kernel
  obtain ⟨target, hreached, hfacts⟩ := (Option.any_eq_true _ _).mp hrun
  rw [Bool.and_eq_true, decide_eq_true_eq, Bool.not_eq_true'] at hfacts
  refine ⟨target, hreached, hfacts.1, hfacts.2, fun hall => ?_⟩
  have hfirst : ("Tenant A", false, false) ∈
      target.tenants.rows.map fun row => (row.id, isIdentifier row.id, isSlug row.slug) := by
    rw [hfacts.1]
    exact List.mem_cons_self
  obtain ⟨row, hrow, hfields⟩ := List.mem_map.mp hfirst
  have hid : isIdentifier row.id = false := congrArg (fun fields => fields.2.1) hfields
  rw [(hall row hrow).id] at hid
  cases hid

end SharedIntegration
