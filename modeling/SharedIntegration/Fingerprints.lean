import SharedIntegration.ColumnTypes
import SharedIntegration.DedupFold

/-!
# What a fingerprint tells apart

The bytes that `finding_fingerprint` hashes are the canonical JSON text of a finding's identity. They are
equal for two findings exactly if the findings are the same problem, so that with a hash without
collisions nothing else decides which findings are merged.
-/

namespace SharedIntegration

open FindingLifecycle

/-- Two findings are the same problem: same source, title, host and CVE apart from spaces and case, and the
same locators. -/
structure SameProblem (text : TextLibrary) (f g : Finding) : Prop where
  source : f.source = g.source
  title : text.casefold (text.strip f.title) = text.casefold (text.strip g.title)
  host : text.casefold (text.strip (f.host.getD "")) = text.casefold (text.strip (g.host.getD ""))
  cve : text.upper (text.strip (f.cve.getD "")) = text.upper (text.strip (g.cve.getD ""))
  locators : ∀ key ∈ locatorKeys, Option.Rel Json.Same (f.metadata.get? key) (g.metadata.get? key)

section

variable {core : CoreLibrary} {text : TextLibrary} {writer : Json.Writer String PyFloat} {nesting : ℕ} {f g : Finding}

/-- The locators are a submap of the metadata. -/
theorem findingIdentity_eq (core : CoreLibrary) (text : TextLibrary) (finding : Finding) :
    findingIdentity core text finding =
      .obj [("source", .str (core.sourceValue finding.source)),
        ("title", .str (text.casefold (text.strip finding.title))),
        ("host", .str (text.casefold (text.strip (finding.host.getD "")))),
        ("cve", .str (text.upper (text.strip (finding.cve.getD "")))),
        ("locators", .obj (Json.submap finding.metadata.get? locatorKeys))] := rfl

/-- The identity of a finding with JSON metadata is a JSON value. -/
theorem wellFormed_findingIdentity (h : f.metadata.WellFormed) : (findingIdentity core text f).WellFormed := by
  rw [findingIdentity_eq]
  have hnames : ["source", "title", "host", "cve", "locators"].Nodup := by decide
  refine .obj hnames fun entry hentry => ?_
  simp only [List.mem_cons, List.not_mem_nil, or_false] at hentry
  rcases hentry with rfl | rfl | rfl | rfl | rfl
  · exact .str _
  · exact .str _
  · exact .str _
  · exact .str _
  · exact .submap (by decide) fun _ _ hvalue => h.get? hvalue

/-- Two identities are the same value exactly if the findings are the same problem. -/
theorem same_findingIdentity_iff (hsource : Function.Injective core.sourceValue) :
    Json.Same (findingIdentity core text f) (findingIdentity core text g) ↔ SameProblem text f g := by
  have hlocators : Json.Same (.obj (Json.submap f.metadata.get? locatorKeys) : Document)
      (.obj (Json.submap g.metadata.get? locatorKeys)) ↔
      ∀ key ∈ locatorKeys, Option.Rel Json.Same (f.metadata.get? key) (g.metadata.get? key) := by
    rw [Json.same_obj_iff]
    simp only [Json.getEntry_submap]
    constructor
    · intro h key hkey
      have hrel := h key
      rwa [if_pos hkey, if_pos hkey] at hrel
    · intro h key
      split
      · next hkey => exact h key hkey
      · exact .none
  rw [findingIdentity_eq, findingIdentity_eq, Json.same_obj_iff]
  simp only [Json.getEntry_cons]
  constructor
  · intro h
    have hsourceSame := h "source"
    have htitle := h "title"
    have hhost := h "host"
    have hcve := h "cve"
    have hsame := h "locators"
    simp [Json.same_str_iff] at hsourceSame htitle hhost hcve hsame
    exact ⟨hsource hsourceSame, htitle, hhost, hcve, hlocators.mp hsame⟩
  · intro h name
    rw [h.source, h.title, h.host, h.cve]
    split_ifs
    · exact .some (.str _)
    · exact .some (.str _)
    · exact .some (.str _)
    · exact .some (.str _)
    · exact .some (hlocators.mpr h.locators)
    · exact .none

/-- The canonical bytes are equal exactly if the canonical texts are. -/
theorem canonicalBytes_eq_iff (hf : f.metadata.WellFormed) (hg : g.metadata.WellFormed) {bytes bytes' : List UInt8}
    (hbytes : canonicalBytes core text writer nesting f = some bytes)
    (hbytes' : canonicalBytes core text writer nesting g = some bytes') :
    bytes = bytes' ↔ Json.Same (findingIdentity core text f) (findingIdentity core text g) := by
  have hrendered : ∀ {finding : Finding} {bytes : List UInt8},
      canonicalBytes core text writer nesting finding = some bytes →
      PyText.encodeUtf8 (Json.render writer (findingIdentity core text finding)) = some bytes := by
    intro finding bytes h
    obtain ⟨rendered, hdumps, hencoded⟩ := Option.bind_eq_some_iff.mp h
    unfold Json.dumps at hdumps
    split at hdumps
    · cases hdumps
      exact hencoded
    · cases hdumps
  have hf' := hrendered hbytes
  have hg' := hrendered hbytes'
  rw [← @Json.render_eq_iff _ _ writer _ _ _ (wellFormed_findingIdentity hf)
    (wellFormed_findingIdentity hg)]
  constructor
  · rintro rfl
    exact PyText.encodeUtf8_injective hf' hg'
  · intro h
    rw [h, hg', Option.some.injEq] at hf'
    exact hf'.symm

/-- What decides whether findings are merged: the hashed bytes of two findings are equal exactly if the
findings are the same problem, and with a hash without collisions two adds of one tenant are counted in
one row exactly if they report the same problem. -/
structure FingerprintsTellProblems (core : CoreLibrary) (text : TextLibrary) (writer : Json.Writer String PyFloat)
    (nesting : ℕ) : Prop where
  bytes : ∀ f g : Finding, f.metadata.WellFormed → g.metadata.WellFormed → ∀ bytes bytes' : List UInt8,
    canonicalBytes core text writer nesting f = some bytes →
      canonicalBytes core text writer nesting g = some bytes' → (bytes = bytes' ↔ SameProblem text f g)
  merged : ∀ hash : List UInt8 → String, Function.Injective hash →
    (∀ finding bytes, canonicalBytes core text writer nesting finding = some bytes →
      findingFingerprint core text finding = hash bytes) →
    ∀ adds : List FindingAdd, (∀ add ∈ adds, add.finding.metadata.WellFormed ∧
      (canonicalBytes core text writer nesting add.finding).isSome) →
    ∀ add ∈ performed core text Database.empty adds, ∀ add' ∈ performed core text Database.empty adds,
      add.tenantId = add'.tenantId →
      ((∃ row ∈ (addAll core text Database.empty adds).findings.rows,
        add ∈ history core text (performed core text Database.empty adds) row.tenantId row.fingerprint ∧
        add' ∈ history core text (performed core text Database.empty adds) row.tenantId row.fingerprint) ↔
      SameProblem text add.finding add'.finding)

/-- Fingerprints tell problems apart, and nothing else, whatever the findings and their JSON metadata are and
however their strings and floats are spelled. -/
theorem fingerprints_tell_problems (core : CoreLibrary) (hsource : Function.Injective core.sourceValue)
    (text : TextLibrary) (writer : Json.Writer String PyFloat) (nesting : ℕ) :
    FingerprintsTellProblems core text writer nesting := by
  have hbytes : ∀ f g : Finding, f.metadata.WellFormed → g.metadata.WellFormed → ∀ bytes bytes' : List UInt8,
      canonicalBytes core text writer nesting f = some bytes →
        canonicalBytes core text writer nesting g = some bytes' → (bytes = bytes' ↔ SameProblem text f g) :=
    fun f g hf hg bytes bytes' hb hb' =>
      (canonicalBytes_eq_iff hf hg hb hb').trans (same_findingIdentity_iff hsource)
  refine ⟨hbytes, fun hash hhash hfingerprint adds hadds add hadd add' hadd' htenant => ?_⟩
  have hfolded : Folded core text (addAll core text Database.empty adds) (performed core text Database.empty adds) :=
    folded_empty.addAll adds
  obtain ⟨hformed, hsome⟩ := hadds add ((performed_sublist _ _).subset hadd)
  obtain ⟨hformed', hsome'⟩ := hadds add' ((performed_sublist _ _).subset hadd')
  obtain ⟨bytes, hb⟩ := Option.isSome_iff_exists.mp hsome
  obtain ⟨bytes', hb'⟩ := Option.isSome_iff_exists.mp hsome'
  rw [← hbytes _ _ hformed hformed' bytes bytes' hb hb', ← hhash.eq_iff, ← hfingerprint _ _ hb, ← hfingerprint _ _ hb']
  constructor
  · rintro ⟨row, hrow, hcounted, hcounted'⟩
    have hsame := of_decide_eq_true (List.mem_filter.mp hcounted).2
    have hsame' := of_decide_eq_true (List.mem_filter.mp hcounted').2
    exact hsame.2.trans hsame'.2.symm
  · intro hsame
    obtain ⟨row, hrow⟩ := Option.ne_none_iff_exists'.mp (hfolded.stored add hadd)
    obtain ⟨hmem, hrowTenant, hrowFingerprint⟩ := fingerprint_of_find hrow
    refine ⟨row, hmem, List.mem_filter.mpr ⟨hadd, ?_⟩, List.mem_filter.mpr ⟨hadd', ?_⟩⟩
    · exact decide_eq_true ⟨hrowTenant.symm, hrowFingerprint.symm⟩
    · exact decide_eq_true ⟨htenant.symm.trans hrowTenant.symm, hsame.symm.trans hrowFingerprint.symm⟩

end

namespace FindingDict

/-- A hash without collisions. -/
def hash (bytes : List UInt8) : String := String.ofList (bytes.map fun byte => Char.ofNat byte.toNat)

/-- The text functions with fingerprints that are hashes of canonical bytes. -/
def hashed : TextLibrary :=
  { text with
    digest := fun identity =>
      ((Json.dumps (documentWriter floatWriter) 1000 identity).bind PyText.encodeUtf8).elim "" hash }

/-- Hashes of different bytes are different. -/
theorem hash_injective : Function.Injective hash := by
  intro bytes bytes' h
  have hbyte : Function.Injective fun byte : UInt8 => Char.ofNat byte.toNat := by
    intro a b hab
    have hnumber : ∀ n < 256, (Char.ofNat n).toNat = n := by
      intro n hn
      have hvalid : n.isValidChar := .inl (by omega)
      rw [Char.ofNat, dif_pos hvalid]
      rfl
    have hcode := congrArg Char.toNat hab
    rw [hnumber _ a.toNat_lt, hnumber _ b.toNat_lt] at hcode
    exact UInt8.toNat_inj.mp hcode
  exact List.map_injective_iff.mpr hbyte (String.ofList_injective h)

/-- The fingerprint is the hash of the canonical bytes. -/
theorem fingerprint_hashed {finding : Finding} {bytes : List UInt8}
    (h : canonicalBytes core hashed (documentWriter floatWriter) 1000 finding = some bytes) :
    findingFingerprint core hashed finding = hash bytes :=
  congrArg (fun written : Option (List UInt8) => written.elim "" hash) h

/-- Sources have different values. -/
theorem sourceValue_injective : Function.Injective sourceValue := by
  intro a b h
  rw [← sourceOf_sourceValue a, h, sourceOf_sourceValue]

/-- A report of a problem. -/
def report : FindingAdd :=
  ⟨"tenant-a", { hostFinding "f1" "web-1" .low with
    metadata := .obj [("line", .float (.rational 3)), ("path", .obj [("a", .int 1), ("b", .null)])] }, none, ⟨0, "1"⟩⟩

/-- A report of the same problem, with the host in capitals and more metadata in another order. -/
def repeated : FindingAdd :=
  ⟨"tenant-a", { hostFinding "f2" " WEB-1" .high with
    metadata := .obj [("path", .obj [("b", .null), ("a", .int 1)]), ("note", .bool true),
      ("line", .float (.rational 3))] }, some "job_1", ⟨1, "2"⟩⟩

/-- The metadata of both is JSON. -/
theorem wellFormed_reports : report.finding.metadata.WellFormed ∧ repeated.finding.metadata.WellFormed := by
  have hpath : ∀ entries : List (String × Document), (entries.map Prod.fst).Nodup →
      (∀ entry ∈ entries, entry.2 = .int 1 ∨ entry.2 = .null) → (Json.obj entries : Document).WellFormed := by
    intro entries hnames hvalues
    refine .obj hnames fun entry hentry => ?_
    rcases hvalues entry hentry with h | h
    · exact h ▸ .int 1
    · exact h ▸ .null
  constructor
  · refine .obj (by decide) (List.forall_mem_cons.mpr ⟨.float _, List.forall_mem_cons.mpr ⟨?_, by simp⟩⟩)
    exact hpath _ (by decide) (by simp)
  · refine .obj (by decide) (List.forall_mem_cons.mpr ⟨?_, List.forall_mem_cons.mpr ⟨.bool _,
      List.forall_mem_cons.mpr ⟨.float _, by simp⟩⟩⟩)
    exact hpath _ (by decide) (by simp)

/-- Both report the same problem. -/
theorem sameProblem_reports : SameProblem hashed report.finding repeated.finding where
  source := rfl
  title := rfl
  host := by decide +kernel
  cve := rfl
  locators := by
    have hpath : Json.Same (.obj [("a", .int 1), ("b", .null)] : Document) (.obj [("b", .null), ("a", .int 1)]) := by
      refine .obj fun name => ?_
      by_cases ha : name = "a"
      · subst ha
        exact .some (.int 1)
      · by_cases hb : name = "b"
        · subst hb
          exact .some .null
        · simp [Ne.symm ha, Ne.symm hb, Json.getEntry]
    intro key hkey
    simp only [locatorKeys, List.mem_cons, List.not_mem_nil, or_false] at hkey
    rcases hkey with rfl | rfl | rfl | rfl | rfl | rfl | rfl
    · exact .none
    · exact .none
    · exact .none
    · exact .some (.float _)
    · exact .some hpath
    · exact .none
    · exact .none

/-- The theorem applies to these reports: they are counted in one row. -/
theorem fingerprints_tell_problems_reordered :
    ∃ row ∈ (addAll core hashed Database.empty [report, repeated]).findings.rows,
      report ∈ history core hashed (performed core hashed Database.empty [report, repeated]) row.tenantId
        row.fingerprint ∧
      repeated ∈ history core hashed (performed core hashed Database.empty [report, repeated]) row.tenantId
        row.fingerprint := by
  have hlength : (performed core hashed Database.empty [report, repeated]).length = 2 := by decide +kernel
  have hperformed := (@performed_sublist core hashed Database.empty
    [report, repeated]).eq_of_length hlength
  have hwritten : (canonicalBytes core hashed (documentWriter floatWriter) 1000 report.finding).isSome ∧
      (canonicalBytes core hashed (documentWriter floatWriter) 1000 repeated.finding).isSome := by decide +kernel
  refine ((fingerprints_tell_problems core sourceValue_injective hashed (documentWriter floatWriter) 1000).merged hash hash_injective
    (fun _ _ => fingerprint_hashed) [report, repeated] ?_ report ?_ repeated ?_ rfl).mpr sameProblem_reports
  · exact List.forall_mem_cons.mpr ⟨⟨wellFormed_reports.1, hwritten.1⟩,
      List.forall_mem_cons.mpr ⟨⟨wellFormed_reports.2, hwritten.2⟩, by simp⟩⟩
  · rw [hperformed]
    exact .head _
  · rw [hperformed]
    exact .tail _ (.head _)

end FindingDict

end SharedIntegration
