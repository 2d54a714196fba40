import SharedIntegration.Positions

/-!
# Pages of findings

`list_page` reads one row more than it returns, to know whether there is a next page, and a cursor is the
row id of the last row that was returned. Row ids never change and new ones are larger than all others,
so a client that follows the cursors meets each row that was there at its first request at most once.
-/

namespace SharedIntegration

open Relational Transition

namespace FindingLifecycle

variable {core : CoreLibrary} {text : TextLibrary} {decimal : Char → Option ℕ} {db db' : Database}

/-! ### Rows over time -/

/-- Rows keep their ids and tenants, and new row ids come from the sequence. -/
structure Grows (db db' : Database) : Prop where
  kept : ∀ row ∈ db.findings.rows, ∃ row' ∈ db'.findings.rows,
    row'.rowId = row.rowId ∧ row'.tenantId = row.tenantId
  new : ∀ row' ∈ db'.findings.rows, (∃ row ∈ db.findings.rows,
    row.rowId = row'.rowId ∧ row.tenantId = row'.tenantId) ∨
      db.findingSequence ≤ row'.rowId ∧ row'.rowId < db'.findingSequence
  sequence : db.findingSequence ≤ db'.findingSequence

/-- Nothing happened. -/
theorem Grows.refl (db : Database) : Grows db db where
  kept row hrow := ⟨row, hrow, rfl, rfl⟩
  new row hrow := Or.inl ⟨row, hrow, rfl, rfl⟩
  sequence := Nat.le_refl _

/-- One thing happened after another. -/
theorem Grows.trans {db'' : Database} (h : Grows db db') (h' : Grows db' db'') : Grows db db'' where
  kept row hrow := by
    obtain ⟨row', hrow', hid, htenant⟩ := h.kept row hrow
    obtain ⟨row'', hrow'', hid', htenant'⟩ := h'.kept row' hrow'
    exact ⟨row'', hrow'', hid'.trans hid, htenant'.trans htenant⟩
  new row'' hrow'' := by
    have hlater := h'.sequence
    have hearlier := h.sequence
    rcases h'.new row'' hrow'' with ⟨row', hrow', hid', htenant'⟩ | hnew
    · rcases h.new row' hrow' with ⟨row, hrow, hid, htenant⟩ | hnew
      · exact Or.inl ⟨row, hrow, hid.trans hid', htenant.trans htenant'⟩
      · exact Or.inr (by omega)
    · exact Or.inr (by omega)
  sequence := h.sequence.trans h'.sequence

/-- An update of other columns. -/
theorem Grows.of_update {selected : FindingRow → Bool} {change : FindingRow → FindingRow}
    (hrows : db'.findings.rows = db.findings.rows.map fun row => if selected row then change row else row)
    (hsequence : db'.findingSequence = db.findingSequence) (hid : ∀ row, (change row).rowId = row.rowId)
    (htenant : ∀ row, (change row).tenantId = row.tenantId) : Grows db db' := by
  have hsame : ∀ row, (if selected row then change row else row).rowId = row.rowId ∧
      (if selected row then change row else row).tenantId = row.tenantId := by
    intro row
    split
    · exact ⟨hid row, htenant row⟩
    · exact ⟨rfl, rfl⟩
  refine ⟨fun row hrow => ?_, fun row' hrow' => ?_, Nat.le_of_eq hsequence.symm⟩
  · exact ⟨_, hrows ▸ List.mem_map_of_mem hrow, hsame row⟩
  · rw [hrows] at hrow'
    obtain ⟨row, hrow, rfl⟩ := List.mem_map.mp hrow'
    exact Or.inl ⟨row, hrow, (hsame row).1.symm, (hsame row).2.symm⟩

/-- Every transaction only lets the rows grow. -/
theorem grows_step {label : FindingAction × Moment} (h : step core text db label = some db') : Grows db db' := by
  obtain ⟨action, m⟩ := label
  cases action with
  | add tenantId finding jobId =>
    change storeLocked core text db m tenantId finding jobId = some db' at h
    obtain ⟨tenants, -, ⟨-, findings, hinsert, rfl⟩ | ⟨row, -, rfl⟩⟩ := storeLocked_cases h
    · have hrows : findings.rows = db.findings.rows ++
          [.created core text db.findingSequence tenantId finding jobId m.now] := (Table.insert_eq_some hinsert).1
      refine ⟨fun row hrow => ⟨row, hrows ▸ List.mem_append_left _ hrow, rfl, rfl⟩, fun row hrow => ?_,
        Nat.le_succ _⟩
      change row ∈ findings.rows at hrow
      rw [hrows] at hrow
      rcases List.mem_append.mp hrow with hold | hnew
      · exact Or.inl ⟨row, hold, rfl, rfl⟩
      · rw [List.mem_singleton.mp hnew]
        exact Or.inr ⟨Nat.le_refl _, Nat.lt_succ_self _⟩
    · exact Grows.of_update rfl rfl (fun _ => rfl) fun _ => rfl
  | addLost tenantId finding =>
    obtain ⟨row, -, rfl⟩ := storeLost_cases h
    exact Grows.of_update rfl rfl (fun _ => rfl) fun _ => rfl
  | triage tenantId findingId status assignedTo actor =>
    change some (updateLifecycle core db m tenantId findingId status assignedTo actor).1 = some db' at h
    cases h
    unfold updateLifecycle
    split
    · exact Grows.refl _
    · exact Grows.of_update rfl rfl (fun _ => rfl) fun _ => rfl

/-- Every run only lets the rows grow. -/
theorem grows_run {actions : List (FindingAction × Moment)}
    (h : runSteps (step core text) db actions = some db') : Grows db db' := by
  induction actions generalizing db with
  | nil =>
    cases h
    exact Grows.refl _
  | cons label rest ih =>
    obtain ⟨next, hstep, hrest⟩ := runSteps_cons_eq_some.mp h
    exact (grows_step hstep).trans (ih hrest)

/-- The row ids of a database that transactions have filled come from its sequence, which starts at one. -/
theorem rowId_range {actions : List (FindingAction × Moment)}
    (h : runSteps (step core text) Database.empty actions = some db) :
    ∀ row ∈ db.findings.rows, 1 ≤ row.rowId ∧ row.rowId < db.findingSequence := by
  intro row hrow
  have hgrows := grows_run h
  rcases hgrows.new row hrow with ⟨old, hold, -⟩ | hnew
  · exact absurd hold List.not_mem_nil
  · exact hnew

/-! ### One page -/

/-- The filters of a listing. -/
structure PageFilter where
  tenantId : String
  source : Option FindingSource
  severity : Option FindingSeverity
  status : Option FindingStatus

/-- A row of the tenant that the filters select. -/
def PageFilter.Matches (filter : PageFilter) (row : FindingRow) : Prop :=
  row.tenantId = filter.tenantId ∧
    RowFilter.selects ⟨filter.source, filter.severity, none, none, filter.status, none⟩ row = true

/-- The matching rows below the start of a page, the latest first. -/
def matching (db : Database) (filter : PageFilter) (start : Option ℕ) : List FindingRow :=
  (orderBy FindingRow.rowId (db.findings.select fun row => row.tenantId = filter.tenantId &&
    (start.all fun before => row.rowId < before) &&
      RowFilter.selects ⟨filter.source, filter.severity, none, none, filter.status, none⟩ row)).reverse

/-- Which rows match. -/
theorem mem_matching {filter : PageFilter} {start : Option ℕ} {row : FindingRow} :
    row ∈ matching db filter start ↔
      row ∈ db.findings.rows ∧ filter.Matches row ∧ ∀ before ∈ start, row.rowId < before := by
  have hstart : (start.all fun before => decide (row.rowId < before)) = true ↔ ∀ before ∈ start, row.rowId < before := by
    cases start <;> simp
  rw [matching, List.mem_reverse, (orderBy_perm _ _).mem_iff, Table.select, List.mem_filter, Bool.and_eq_true,
    Bool.and_eq_true, decide_eq_true_eq, hstart]
  exact ⟨fun h => ⟨h.1, ⟨h.2.1.1, h.2.2⟩, h.2.1.2⟩, fun h => ⟨h.1, ⟨h.2.1.1, h.2.2⟩, h.2.1.2⟩⟩

/-- Two rows of a table have different row ids. -/
theorem rowIds_differ (findings : Table FindingRow FindingRow.Conflict) :
    findings.rows.Pairwise fun a b => a.rowId ≠ b.rowId :=
  findings.consistent.imp fun hfree hsame => hfree (Or.inl hsame)

/-- Matching rows come in strictly decreasing order. -/
theorem matching_decreasing (db : Database) (filter : PageFilter) (start : Option ℕ) :
    (matching db filter start).Pairwise fun a b => b.rowId < a.rowId := by
  unfold matching
  rw [List.pairwise_reverse]
  have hdiffer := (rowIds_differ db.findings).sublist (List.filter_sublist (p := fun row =>
    row.tenantId = filter.tenantId && (start.all fun before => row.rowId < before) &&
      RowFilter.selects ⟨filter.source, filter.severity, none, none, filter.status, none⟩ row))
  have hordered := hdiffer.perm (orderBy_perm FindingRow.rowId _).symm fun hne => hne.symm
  exact ((orderBy_sorted FindingRow.rowId _).and hordered).imp fun h => Nat.lt_of_le_of_ne h.1 h.2

/-- A page is the first part of the matching rows. -/
theorem listPage_eq (core : CoreLibrary) (db : Database) (filter : PageFilter) (start : Option ℕ) (limit : ℕ) :
    listPage core db filter.tenantId start limit filter.source filter.severity filter.status =
      (((matching db filter start).take limit).map (recordFromRow core),
        if limit < (matching db filter start).length then
          ((matching db filter start).take limit).getLast?.map FindingRow.rowId else none) := by
  have htake : ((matching db filter start).take (limit + 1)).take limit = (matching db filter start).take limit := by
    rw [List.take_take, Nat.min_eq_left (Nat.le_succ limit)]
  have hlength : limit < ((matching db filter start).take (limit + 1)).length ↔
      limit < (matching db filter start).length := by
    rw [List.length_take]
    omega
  unfold listPage
  dsimp only
  change ((((matching db filter start).take (limit + 1)).take limit).map (recordFromRow core),
    if limit < ((matching db filter start).take (limit + 1)).length then
      (((matching db filter start).take (limit + 1)).take limit).getLast?.map FindingRow.rowId else none) = _
  simp only [htake, hlength]

/-- A page without a next one holds all matching rows. -/
theorem listPage_last {core : CoreLibrary} {filter : PageFilter} {start : Option ℕ} {limit : ℕ}
    {records : List FindingLifecycleRecord} (hlimit : 1 ≤ limit)
    (h : listPage core db filter.tenantId start limit filter.source filter.severity filter.status = (records, none)) :
    records = (matching db filter start).map (recordFromRow core) := by
  rw [listPage_eq, Prod.mk.injEq] at h
  obtain ⟨hrecords, hnext⟩ := h
  have hshort : (matching db filter start).length ≤ limit := by
    by_contra hlong
    rw [if_pos (Nat.lt_of_not_le hlong), Option.map_eq_none_iff, List.getLast?_eq_none_iff,
      List.take_eq_nil_iff] at hnext
    rcases hnext with hzero | hnil
    · omega
    · rw [hnil] at hlong
      exact hlong (Nat.zero_le limit)
  rw [← hrecords, List.take_of_length_le hshort]

/-- A page with a next one ends with a row behind which there are others. -/
theorem listPage_more {core : CoreLibrary} {filter : PageFilter} {start : Option ℕ} {limit n : ℕ}
    {records : List FindingLifecycleRecord}
    (h : listPage core db filter.tenantId start limit filter.source filter.severity filter.status = (records, some n)) :
    ∃ front last below, matching db filter start = front ++ last :: below ∧ below ≠ [] ∧ last.rowId = n ∧
      records = (front ++ [last]).map (recordFromRow core) := by
  rw [listPage_eq, Prod.mk.injEq] at h
  obtain ⟨hrecords, hnext⟩ := h
  by_cases hlong : limit < (matching db filter start).length
  · rw [if_pos hlong, Option.map_eq_some_iff] at hnext
    obtain ⟨last, hlast, hid⟩ := hnext
    obtain ⟨front, hfront⟩ := List.getLast?_eq_some_iff.mp hlast
    have hsplit := List.take_append_drop limit (matching db filter start)
    rw [hfront, List.append_assoc] at hsplit
    refine ⟨front, last, (matching db filter start).drop limit, hsplit.symm, ?_, hid, ?_⟩
    · intro hnil
      rw [List.drop_eq_nil_iff] at hnil
      omega
    · rw [← hrecords, hfront]
  · rw [if_neg hlong] at hnext
    cases hnext

/-! ### Following the cursors -/

/-- A page that a client has read: the database at that time, the request and the answer. -/
structure PageRead where
  db : Database
  cursor : Option String
  limit : ℕ
  records : List FindingLifecycleRecord
  next : Option String

/-- The page is what the listing returned. -/
structure PageRead.Answered (core : CoreLibrary) (decimal : Char → Option ℕ) (filter : PageFilter)
    (page : PageRead) : Prop where
  limit : 1 ≤ page.limit
  answer : listPageAt core decimal page.db filter.tenantId page.cursor page.limit filter.source filter.severity
    filter.status = .ok (page.records, page.next)

/-- The pages of a client that follows the cursors, with any stores and triage between its requests. -/
inductive Traversal (core : CoreLibrary) (text : TextLibrary) (decimal : Char → Option ℕ) (filter : PageFilter) :
    Database → Option String → List PageRead → Prop
  | stop (db : Database) (cursor : Option String) : Traversal core text decimal filter db cursor []
  | last {page : PageRead} (hpage : page.Answered core decimal filter) (hnext : page.next = none) :
    Traversal core text decimal filter page.db page.cursor [page]
  | more {page : PageRead} {cursor : String} {actions : List (FindingAction × Moment)} {db' : Database}
    {rest : List PageRead} (hpage : page.Answered core decimal filter) (hnext : page.next = some cursor)
    (hrun : runSteps (step core text) page.db actions = some db')
    (hrest : Traversal core text decimal filter db' (some cursor) rest) :
    Traversal core text decimal filter page.db page.cursor (page :: rest)

/-- The row ids that a client has seen. -/
def seen (pages : List PageRead) : List ℕ := pages.flatMap fun page => page.records.map (·.cursor)

/-- The last page was the end of the listing. -/
def Complete (pages : List PageRead) : Prop := ∃ page ∈ pages.getLast?, page.next = none

/-- The row ids of a database are in the range of its column. -/
structure RowsFit (db : Database) : Prop where
  positive : ∀ row ∈ db.findings.rows, 1 ≤ row.rowId
  drawn : ∀ row ∈ db.findings.rows, row.rowId < db.findingSequence

/-- The rows of a database that transactions have filled. -/
theorem RowsFit.of_run {actions : List (FindingAction × Moment)}
    (h : runSteps (step core text) Database.empty actions = some db) : RowsFit db where
  positive row hrow := (rowId_range h row hrow).1
  drawn row hrow := (rowId_range h row hrow).2

/-- Further transactions keep the row ids in range. -/
theorem RowsFit.grow (hfit : RowsFit db) (hgrows : Grows db db') (hpositive : 1 ≤ db.findingSequence) :
    RowsFit db' where
  positive row' hrow' := by
    rcases hgrows.new row' hrow' with ⟨row, hrow, hid, -⟩ | hnew
    · exact hid ▸ hfit.positive row hrow
    · omega
  drawn row' hrow' := by
    rcases hgrows.new row' hrow' with ⟨row, hrow, hid, -⟩ | hnew
    · exact hid ▸ (hfit.drawn row hrow).trans_le hgrows.sequence
    · exact hnew.2

/-- Rows below an earlier row id are earlier rows. -/
theorem Grows.old_below {n : ℕ} (hgrows : Grows db db') (hn : n ≤ db.findingSequence) {row' : FindingRow}
    (hrow' : row' ∈ db'.findings.rows) (hbelow : row'.rowId < n) :
    ∃ row ∈ db.findings.rows, row.rowId = row'.rowId ∧ row.tenantId = row'.tenantId := by
  rcases hgrows.new row' hrow' with hold | hnew
  · exact hold
  · omega

/-- What a client gets from a page that was read below a start. -/
inductive Piece (core : CoreLibrary) (filter : PageFilter) (start : Option ℕ) (page : PageRead) : Prop
  | last (hnext : page.next = none) (hrecords : page.records = (matching page.db filter start).map (recordFromRow core))
  | more {front below : List FindingRow} {last : FindingRow} (hnext : page.next = some (encodeCursor last.rowId))
    (hsplit : matching page.db filter start = front ++ last :: below) (hbelow : below ≠ [])
    (hrecords : page.records = (front ++ [last]).map (recordFromRow core))

/-- An answered page is such a piece. -/
theorem PageRead.Answered.piece {filter : PageFilter} {start : Option ℕ} {page : PageRead}
    (h : page.Answered core decimal filter) (hstart : pageStart decimal page.cursor = .ok start) :
    Piece core filter start page := by
  have hanswer := h.answer
  rw [listPageAt_ok hstart, Except.ok.injEq, Prod.mk.injEq] at hanswer
  obtain ⟨hrecords, hnext⟩ := hanswer
  cases hpage : (listPage core page.db filter.tenantId start page.limit filter.source filter.severity
    filter.status).2 with
  | none =>
    rw [hpage, Option.map_none] at hnext
    exact Piece.last hnext.symm (hrecords ▸ listPage_last h.limit (Prod.ext rfl hpage))
  | some n =>
    rw [hpage, Option.map_some] at hnext
    obtain ⟨front, last, below, hsplit, hbelow, rfl, hfront⟩ := listPage_more (Prod.ext rfl hpage)
    exact Piece.more hnext.symm hsplit hbelow (hrecords ▸ hfront)

/-- The place of a client in a listing: its cursor decodes to a start, and the rows below it can be addressed. -/
structure Position (decimal : Char → Option ℕ) (db : Database) (cursor : Option String) (start : Option ℕ) :
    Prop where
  decodes : pageStart decimal cursor = .ok start
  rows : RowsFit db
  sequence : 1 ≤ db.findingSequence
  below : ∀ before ∈ start, before ≤ db.findingSequence
  addressed : ∀ row ∈ db.findings.rows, (∀ before ∈ start, row.rowId < before) → row.rowId < integerBound

/-- The place behind a row that the client has met, however the rows grow meanwhile. -/
theorem Position.next (hdecimal : PyString.ReadsAscii decimal) {cursor : Option String} {start : Option ℕ}
    (h : Position decimal db cursor start) (hgrows : Grows db db') {last : FindingRow}
    (hlast : last ∈ db.findings.rows) (hstart : ∀ before ∈ start, last.rowId < before) :
    Position decimal db' (some (encodeCursor last.rowId)) (some last.rowId) := by
  have hbound : last.rowId < integerBound := h.addressed last hlast hstart
  have hdigits : integerBound < 10 ^ PyString.maxStrDigits := by decide +kernel
  have hdecode : decodeCursor decimal (encodeCursor last.rowId) = some last.rowId :=
    decodeCursor_encodeCursor hdecimal (h.rows.positive last hlast) (hbound.trans hdigits)
  exact {
    decodes := pageStart_ok hdecode hbound
    rows := h.rows.grow hgrows h.sequence
    sequence := h.sequence.trans hgrows.sequence
    below := fun before hbefore => by
      rw [← Option.some.inj hbefore]
      exact (h.rows.drawn last hlast).le.trans hgrows.sequence
    addressed := fun row _ hrow => (hrow last.rowId rfl).trans hbound }

/-- The place behind a page. -/
theorem Position.behind (hdecimal : PyString.ReadsAscii decimal) {filter : PageFilter} {cursor : Option String}
    {start : Option ℕ} (h : Position decimal db cursor start) (hgrows : Grows db db')
    {front below : List FindingRow} {last : FindingRow} (hsplit : matching db filter start = front ++ last :: below) :
    Position decimal db' (some (encodeCursor last.rowId)) (some last.rowId) := by
  have hlast : last ∈ matching db filter start := by
    rw [hsplit]
    exact List.mem_append_right front List.mem_cons_self
  obtain ⟨hrow, -, hstart⟩ := mem_matching.mp hlast
  exact h.next hdecimal hgrows hrow hstart

/-- Every page of a client is answered, from a place in the listing. -/
theorem Traversal.positions (hdecimal : PyString.ReadsAscii decimal) {filter : PageFilter} {cursor : Option String}
    {start : Option ℕ} {pages : List PageRead} (h : Traversal core text decimal filter db cursor pages)
    (hposition : Position decimal db cursor start) :
    ∀ page ∈ pages, page.Answered core decimal filter ∧ ∃ start, Position decimal page.db page.cursor start := by
  induction h generalizing start with
  | stop db cursor => exact fun page hpage => absurd hpage List.not_mem_nil
  | @last page hpage hnext =>
    intro page' hpage'
    rw [List.mem_singleton.mp hpage']
    exact ⟨hpage, start, hposition⟩
  | @more page cursor actions db' rest hpage hnext hrun hrest ih =>
    intro page' hpage'
    rcases List.mem_cons.mp hpage' with rfl | hlater
    · exact ⟨hpage, start, hposition⟩
    · cases hpage.piece hposition.decodes with
      | last hnone => rw [hnone] at hnext; cases hnext
      | more hsome hsplit =>
        rw [hsome, Option.some.injEq] at hnext
        subst hnext
        exact ih (hposition.behind hdecimal (grows_run hrun) hsplit) page' hlater

/-- The cursors of records are the ids of their rows. -/
theorem map_cursor (core : CoreLibrary) (rows : List FindingRow) :
    (rows.map (recordFromRow core)).map (·.cursor) = rows.map FindingRow.rowId := by
  rw [List.map_map]
  rfl

/-- The ids of a page are strictly decreasing and below its start. -/
theorem Piece.decreasing {filter : PageFilter} {start : Option ℕ} {page : PageRead}
    (h : Piece core filter start page) : (page.records.map (·.cursor)).Pairwise (fun a b => b < a) ∧
      ∀ id ∈ page.records.map (·.cursor), ∀ before ∈ start, id < before := by
  have hdecreasing := matching_decreasing page.db filter start
  have hpart : ∃ rows below, matching page.db filter start = rows ++ below ∧
      page.records = rows.map (recordFromRow core) := by
    cases h with
    | last hnext hrecords => exact ⟨_, [], (List.append_nil _).symm, hrecords⟩
    | @more front below last hnext hsplit hbelow hrecords =>
      exact ⟨front ++ [last], below, by rw [hsplit, List.append_assoc]; rfl, hrecords⟩
  obtain ⟨rows, below, hsplit, hrecords⟩ := hpart
  rw [hrecords, map_cursor]
  constructor
  · rw [List.pairwise_map]
    rw [hsplit] at hdecreasing
    exact (List.pairwise_append.mp hdecreasing).1
  · intro id hid
    obtain ⟨row, hrow, rfl⟩ := List.mem_map.mp hid
    have hmem : row ∈ matching page.db filter start := by
      rw [hsplit]
      exact List.mem_append_left below hrow
    exact (mem_matching.mp hmem).2.2

/-- The ids that a client sees are strictly decreasing and below its start. -/
theorem Traversal.decreasing (hdecimal : PyString.ReadsAscii decimal) {filter : PageFilter} {cursor : Option String}
    {start : Option ℕ} {pages : List PageRead} (h : Traversal core text decimal filter db cursor pages)
    (hposition : Position decimal db cursor start) :
    (seen pages).Pairwise (fun a b => b < a) ∧ ∀ id ∈ seen pages, ∀ before ∈ start, id < before := by
  induction h generalizing start with
  | stop db cursor => exact ⟨List.Pairwise.nil, fun id hid => absurd hid List.not_mem_nil⟩
  | @last page hpage hnext =>
    have hseen : seen [page] = page.records.map (·.cursor) := List.append_nil _
    rw [hseen]
    exact (hpage.piece hposition.decodes).decreasing
  | @more page cursor actions db' rest hpage hnext hrun hrest ih =>
    have hpiece := hpage.piece hposition.decodes
    obtain ⟨hdecreasing, hbelow⟩ := hpiece.decreasing
    cases hpiece with
    | last hnone => rw [hnone] at hnext; cases hnext
    | @more front below last hsome hsplit _ hrecords =>
      rw [hsome, Option.some.injEq] at hnext
      subst hnext
      obtain ⟨hrest, hlater⟩ := ih (hposition.behind hdecimal (grows_run hrun) hsplit)
      have hids : page.records.map (·.cursor) = front.map FindingRow.rowId ++ [last.rowId] := by
        rw [hrecords, map_cursor, List.map_append]
        rfl
      have hleast : ∀ id ∈ page.records.map (·.cursor), last.rowId ≤ id := by
        intro id hid
        rw [hids] at hid hdecreasing
        rcases List.mem_append.mp hid with hfront | hlast
        · exact ((List.pairwise_append.mp hdecreasing).2.2 id hfront last.rowId List.mem_cons_self).le
        · rw [List.mem_singleton.mp hlast]
      have hlast : last.rowId ∈ page.records.map (·.cursor) := by
        rw [hids]
        exact List.mem_append_right _ List.mem_cons_self
      change (page.records.map (·.cursor) ++ seen rest).Pairwise _ ∧ ∀ id ∈ page.records.map (·.cursor) ++ seen rest, _
      constructor
      · rw [List.pairwise_append]
        exact ⟨hdecreasing, hrest, fun a ha b hb => (hlater b hb _ rfl).trans_le (hleast a ha)⟩
      · intro id hid before hbefore
        rcases List.mem_append.mp hid with hhere | hthere
        · exact hbelow id hhere before hbefore
        · exact (hlater id hthere _ rfl).trans (hbelow _ hlast before hbefore)

/-- A row of the tenant that matches at every page is seen by a client that reaches the end. -/
theorem Traversal.complete (hdecimal : PyString.ReadsAscii decimal) {filter : PageFilter} {cursor : Option String}
    {start : Option ℕ} {pages : List PageRead} (h : Traversal core text decimal filter db cursor pages)
    (hposition : Position decimal db cursor start) (hcomplete : Complete pages) {id : ℕ}
    (hstored : ∃ row ∈ db.findings.rows, row.rowId = id ∧ row.tenantId = filter.tenantId)
    (hstart : ∀ before ∈ start, id < before)
    (hmatches : ∀ page ∈ pages, ∀ row ∈ page.db.findings.rows, row.rowId = id →
      RowFilter.selects ⟨filter.source, filter.severity, none, none, filter.status, none⟩ row = true) :
    id ∈ seen pages := by
  obtain ⟨row, hrow, rfl, htenant⟩ := hstored
  induction h generalizing start row with
  | stop db cursor =>
    obtain ⟨page, hpage, -⟩ := hcomplete
    cases hpage
  | @last page hpage hnext =>
    have hmem : row ∈ matching page.db filter start :=
      mem_matching.mpr ⟨hrow, ⟨htenant, hmatches page List.mem_cons_self row hrow rfl⟩, hstart⟩
    cases hpage.piece hposition.decodes with
    | more hsome => rw [hsome] at hnext; cases hnext
    | last _ hrecords =>
      have hseen : seen [page] = page.records.map (·.cursor) := List.append_nil _
      rw [hseen, hrecords, map_cursor]
      exact List.mem_map_of_mem hmem
  | @more page cursor actions db' rest hpage hnext hrun hrest ih =>
    have hmem : row ∈ matching page.db filter start :=
      mem_matching.mpr ⟨hrow, ⟨htenant, hmatches page List.mem_cons_self row hrow rfl⟩, hstart⟩
    change row.rowId ∈ page.records.map (·.cursor) ++ seen rest
    cases hpage.piece hposition.decodes with
    | last hnone => rw [hnone] at hnext; cases hnext
    | @more front below last hsome hsplit _ hrecords =>
      rw [hsome, Option.some.injEq] at hnext
      subst hnext
      have hdecreasing := matching_decreasing page.db filter start
      rw [hsplit, List.append_cons] at hmem hdecreasing
      rcases List.mem_append.mp hmem with hhere | hbelow
      · rw [hrecords, map_cursor]
        exact List.mem_append_left _ (List.mem_map_of_mem hhere)
      · have hlt : row.rowId < last.rowId :=
          (List.pairwise_append.mp hdecreasing).2.2 last (List.mem_append_right _ List.mem_cons_self) row hbelow
        obtain ⟨row', hrow', hid, htenant'⟩ := (grows_run hrun).kept row hrow
        have hcomplete' : Complete rest := by
          obtain ⟨final, hfinal, hend⟩ := hcomplete
          cases rest with
          | nil =>
            rw [List.getLast?_singleton, Option.mem_some_iff] at hfinal
            rw [← hfinal, hsome] at hend
            cases hend
          | cons first others =>
            rw [List.getLast?_cons_cons] at hfinal
            exact ⟨final, hfinal, hend⟩
        have hseen := ih (hposition.behind hdecimal (grows_run hrun) hsplit) hcomplete' row' hrow'
          (htenant'.trans htenant) (fun before hbefore => by
            rw [← Option.some.inj hbefore, hid]
            exact hlt)
          (fun page hpage => hid ▸ hmatches page (List.mem_cons_of_mem _ hpage))
        exact List.mem_append_right _ (hid ▸ hseen)

/-! ### The number of requests -/

/-- The ids of the tenant's rows below a start. -/
def idsBelow (db : Database) (tenantId : String) (start : Option ℕ) : List ℕ :=
  (db.findings.select fun row => row.tenantId = tenantId && start.all fun before => row.rowId < before).map
    FindingRow.rowId

/-- Which ids these are. -/
theorem mem_idsBelow {tenantId : String} {start : Option ℕ} {id : ℕ} :
    id ∈ idsBelow db tenantId start ↔
      (∃ row ∈ db.findings.rows, row.rowId = id ∧ row.tenantId = tenantId) ∧ ∀ before ∈ start, id < before := by
  have hstart (row : FindingRow) : (start.all fun before => decide (row.rowId < before)) = true ↔
      ∀ before ∈ start, row.rowId < before := by
    cases start <;> simp
  simp only [idsBelow, List.mem_map, Table.select, List.mem_filter, Bool.and_eq_true, decide_eq_true_eq, hstart]
  constructor
  · rintro ⟨row, ⟨hrow, htenant, hbelow⟩, rfl⟩
    exact ⟨⟨row, hrow, rfl, htenant⟩, hbelow⟩
  · rintro ⟨⟨row, hrow, rfl, htenant⟩, hbelow⟩
    exact ⟨row, ⟨hrow, htenant, hbelow⟩, rfl⟩

/-- They are all different. -/
theorem idsBelow_nodup (db : Database) (tenantId : String) (start : Option ℕ) : (idsBelow db tenantId start).Nodup := by
  rw [idsBelow, List.Nodup, List.pairwise_map]
  exact (rowIds_differ db.findings).sublist List.filter_sublist

/-- Behind a row that was met there are fewer rows left. -/
theorem idsBelow_next {cursor : Option String} {start : Option ℕ} {tenantId : String}
    (h : Position decimal db cursor start) (hgrows : Grows db db') {last : FindingRow}
    (hlast : last ∈ db.findings.rows) (htenant : last.tenantId = tenantId)
    (hstart : ∀ before ∈ start, last.rowId < before) :
    (idsBelow db' tenantId (some last.rowId)).length < (idsBelow db tenantId start).length := by
  have hnodup : (last.rowId :: idsBelow db' tenantId (some last.rowId)).Nodup := by
    rw [List.nodup_cons]
    exact ⟨fun hmem => lt_irrefl _ ((mem_idsBelow.mp hmem).2 _ rfl), idsBelow_nodup db' tenantId _⟩
  have hsubset : last.rowId :: idsBelow db' tenantId (some last.rowId) ⊆ idsBelow db tenantId start := by
    intro id hid
    rcases List.mem_cons.mp hid with rfl | hlater
    · exact mem_idsBelow.mpr ⟨⟨last, hlast, rfl, htenant⟩, hstart⟩
    · obtain ⟨⟨row', hrow', rfl, htenant'⟩, hbelow⟩ := mem_idsBelow.mp hlater
      have hlt : row'.rowId < last.rowId := hbelow _ rfl
      obtain ⟨row, hrow, hid, hsame⟩ := hgrows.old_below (h.rows.drawn last hlast).le hrow' hlt
      exact mem_idsBelow.mpr ⟨⟨row, hrow, hid, hsame.trans htenant'⟩, fun before hbefore =>
        hlt.trans (hstart before hbefore)⟩
  have hlength := (List.subperm_of_subset hnodup hsubset).length_le
  rw [List.length_cons] at hlength
  omega

/-- A client makes at most one request more than there are rows. -/
theorem Traversal.length_le (hdecimal : PyString.ReadsAscii decimal) {filter : PageFilter} {cursor : Option String}
    {start : Option ℕ} {pages : List PageRead} (h : Traversal core text decimal filter db cursor pages)
    (hposition : Position decimal db cursor start) :
    pages.length ≤ 1 + (idsBelow db filter.tenantId start).length := by
  induction h generalizing start with
  | stop db cursor => exact Nat.zero_le _
  | last hpage hnext => exact Nat.le_add_right 1 _
  | @more page cursor actions db' rest hpage hnext hrun hrest ih =>
    cases hpage.piece hposition.decodes with
    | last hnone => rw [hnone] at hnext; cases hnext
    | @more front below last hsome hsplit _ hrecords =>
      rw [hsome, Option.some.injEq] at hnext
      subst hnext
      have hlast : last ∈ matching page.db filter start := by
        rw [hsplit]
        exact List.mem_append_right front List.mem_cons_self
      obtain ⟨hrow, hmatches, hstart⟩ := mem_matching.mp hlast
      have hfewer := idsBelow_next hposition (grows_run hrun) hrow hmatches.1 hstart
      have hrequests := ih (hposition.behind hdecimal (grows_run hrun) hsplit)
      rw [List.length_cons]
      omega

/-! ### The listing as a whole -/

/-- A page of the listing: its rows match, its end is announced exactly when nothing is left, and its cursor is
that of its last row and will be accepted. -/
structure PageRead.Correct (core : CoreLibrary) (decimal : Char → Option ℕ) (filter : PageFilter)
    (page : PageRead) : Prop where
  sound : ∀ record ∈ page.records, ∃ row ∈ page.db.findings.rows, filter.Matches row ∧
    record = recordFromRow core row
  ends : ∃ start, pageStart decimal page.cursor = .ok start ∧
    (page.next = none ↔ ∀ row ∈ page.db.findings.rows, filter.Matches row → (∀ before ∈ start, row.rowId < before) →
      row.rowId ∈ page.records.map (·.cursor))
  continues : ∀ cursor ∈ page.next, ∃ last ∈ page.records.getLast?,
    cursor = encodeCursor last.cursor ∧ decodeCursor decimal cursor = some last.cursor ∧
      ∀ db' limit, ∃ answer, listPageAt core decimal db' filter.tenantId (some cursor) limit filter.source
        filter.severity filter.status = .ok answer

/-- An answered page is correct. -/
theorem PageRead.Answered.correct (hdecimal : PyString.ReadsAscii decimal) {filter : PageFilter} {start : Option ℕ}
    {page : PageRead} (h : page.Answered core decimal filter) (hposition : Position decimal page.db page.cursor start) :
    page.Correct core decimal filter := by
  have hdecreasing := matching_decreasing page.db filter start
  cases h.piece hposition.decodes with
  | last hnext hrecords =>
    refine ⟨fun record hrecord => ?_, ⟨start, hposition.decodes, fun _ row hrow hmatches hstart => ?_, fun _ => hnext⟩,
      fun cursor hcursor => ?_⟩
    · rw [hrecords] at hrecord
      obtain ⟨row, hrow, rfl⟩ := List.mem_map.mp hrecord
      obtain ⟨hstored, hmatches, -⟩ := mem_matching.mp hrow
      exact ⟨row, hstored, hmatches, rfl⟩
    · rw [hrecords, map_cursor]
      exact List.mem_map_of_mem (mem_matching.mpr ⟨hrow, hmatches, hstart⟩)
    · rw [hnext] at hcursor
      cases hcursor
  | @more front below last hnext hsplit hbelow hrecords =>
    have hbehind := hposition.behind hdecimal (Grows.refl _) hsplit
    rw [hsplit, List.append_cons] at hdecreasing
    refine ⟨fun record hrecord => ?_, ⟨start, hposition.decodes, fun hnone => ?_, fun hall => ?_⟩,
      fun cursor hcursor => ?_⟩
    · rw [hrecords] at hrecord
      obtain ⟨row, hrow, rfl⟩ := List.mem_map.mp hrecord
      have hmem : row ∈ matching page.db filter start := by
        rw [hsplit, List.append_cons]
        exact List.mem_append_left below hrow
      obtain ⟨hstored, hmatches, -⟩ := mem_matching.mp hmem
      exact ⟨row, hstored, hmatches, rfl⟩
    · rw [hnext] at hnone
      cases hnone
    · -- A row behind the page matches and is not on the page.
      obtain ⟨row, hrow⟩ := List.exists_mem_of_ne_nil below hbelow
      have hmem : row ∈ matching page.db filter start := by
        rw [hsplit, List.append_cons]
        exact List.mem_append_right _ hrow
      obtain ⟨hstored, hmatches, hstart⟩ := mem_matching.mp hmem
      have hseen := hall row hstored hmatches hstart
      rw [hrecords, map_cursor] at hseen
      obtain ⟨other, hother, hsame⟩ := List.mem_map.mp hseen
      have hlt := (List.pairwise_append.mp hdecreasing).2.2 other hother row hrow
      omega
    · rw [hnext, Option.mem_some_iff] at hcursor
      subst hcursor
      refine ⟨recordFromRow core last, ?_, rfl, ?_, fun db' limit => ⟨_, listPageAt_ok hbehind.decodes db' _ limit _ _ _⟩⟩
      · rw [hrecords, List.map_append, List.map_singleton, List.getLast?_concat]
        rfl
      · have hlast : last ∈ matching page.db filter start := by
          rw [hsplit]
          exact List.mem_append_right front List.mem_cons_self
        obtain ⟨hstored, -, hstart⟩ := mem_matching.mp hlast
        have hdigits : integerBound < 10 ^ PyString.maxStrDigits := by decide +kernel
        exact decodeCursor_encodeCursor hdecimal (hposition.rows.positive last hstored)
          ((hposition.addressed last hstored hstart).trans hdigits)

/-- The filters read three columns. -/
theorem selects_of_same {filter : PageFilter} {row row' : FindingRow} (hsource : row'.source = row.source)
    (hseverity : row'.severity = row.severity) (hstatus : row'.status = row.status)
    (h : RowFilter.selects ⟨filter.source, filter.severity, none, none, filter.status, none⟩ row = true) :
    RowFilter.selects ⟨filter.source, filter.severity, none, none, filter.status, none⟩ row' = true := by
  have hsame : RowFilter.selects ⟨filter.source, filter.severity, none, none, filter.status, none⟩ row' =
      RowFilter.selects ⟨filter.source, filter.severity, none, none, filter.status, none⟩ row := by
    unfold RowFilter.selects
    rw [hsource, hseverity, hstatus]
    rfl
  rw [hsame]
  exact h

/-- Following the cursors lists each matching row once, whatever is stored meanwhile, in at most one request more
than the tenant has rows at the first one. -/
theorem pages_complete (core : CoreLibrary) (text : TextLibrary) {decimal : Char → Option ℕ}
    (hdecimal : PyString.ReadsAscii decimal) {setup : List (FindingAction × Moment)} {db : Database}
    (hreached : runSteps (step core text) Database.empty setup = some db)
    (haddressed : ∀ row ∈ db.findings.rows, row.rowId < integerBound) (filter : PageFilter) :
    (∀ limit, ∃ answer, listPageAt core decimal db filter.tenantId none limit filter.source filter.severity
      filter.status = .ok answer) ∧
    (∀ rowId, 1 ≤ rowId → rowId < 10 ^ PyString.maxStrDigits →
      decodeCursor decimal (encodeCursor rowId) = some rowId) ∧
    ∀ pages, Traversal core text decimal filter db none pages →
      (seen pages).Pairwise (fun a b => b < a) ∧
      (∀ page ∈ pages, page.Correct core decimal filter) ∧
      (Complete pages → ∀ row ∈ db.findings.rows, filter.Matches row →
        (∀ page ∈ pages, ∀ row' ∈ page.db.findings.rows, row'.rowId = row.rowId →
          row'.source = row.source ∧ row'.severity = row.severity ∧ row'.status = row.status) →
        (seen pages).count row.rowId = 1) ∧
      pages.length ≤ 1 + (db.findings.select fun row => row.tenantId = filter.tenantId).length := by
  have hgrows := grows_run hreached
  have hposition : Position decimal db none none := {
    decodes := rfl
    rows := RowsFit.of_run hreached
    sequence := hgrows.sequence
    below := fun before hbefore => by cases hbefore
    addressed := fun row hrow _ => haddressed row hrow }
  refine ⟨fun limit => ⟨_, listPageAt_ok rfl db _ limit _ _ _⟩,
    fun rowId => decodeCursor_encodeCursor hdecimal, fun pages h => ?_⟩
  have hdecreasing := (h.decreasing hdecimal hposition).1
  refine ⟨hdecreasing, fun page hpage => ?_, fun hcomplete row hrow hmatches hsame => ?_, ?_⟩
  · obtain ⟨hanswered, start, hstart⟩ := h.positions hdecimal hposition page hpage
    exact hanswered.correct hdecimal hstart
  · have hseen := h.complete hdecimal hposition hcomplete ⟨row, hrow, rfl, hmatches.1⟩
      (fun before hbefore => by cases hbefore)
      (fun page hpage row' hrow' hid =>
        have hfields := hsame page hpage row' hrow' hid
        selects_of_same hfields.1 hfields.2.1 hfields.2.2 hmatches.2)
    exact List.count_eq_one_of_mem (hdecreasing.imp fun h => h.ne') hseen
  · have hlength := h.length_le hdecimal hposition
    have hall : (fun row : FindingRow => row.tenantId = filter.tenantId &&
        (none : Option ℕ).all fun before => row.rowId < before) =
          fun row : FindingRow => decide (row.tenantId = filter.tenantId) := by
      funext row
      exact Bool.and_true _
    unfold idsBelow at hlength
    rw [hall, List.length_map] at hlength
    exact hlength

/-- Three findings of a tenant. -/
def threeHosts : List (FindingAction × Moment) :=
  [(.add "tenant-a" (hostFinding "f1" "web-1" .low) none, ⟨0, "1"⟩),
    (.add "tenant-a" (hostFinding "f2" "web-2" .high) none, ⟨1, "2"⟩),
    (.add "tenant-a" (hostFinding "f3" "web-3" .low) none, ⟨2, "3"⟩)]

/-- A fourth one, and a further occurrence of the first. -/
def fourthHost : List (FindingAction × Moment) :=
  [(.add "tenant-a" (hostFinding "f4" "web-4" .low) none, ⟨3, "4"⟩),
    (.add "tenant-a" (hostFinding "f5" "web-1" .medium) none, ⟨4, "5"⟩)]

/-- A listing of all findings of the tenant. -/
def allOfTenant : PageFilter := ⟨"tenant-a", none, none, none⟩

set_option maxRecDepth 8000 in
/-- The first of two pages of two findings ends at the second row, whatever is stored before the other is read. -/
theorem threeHosts_pages : (runSteps (step FindingDict.core FindingDict.text) Database.empty threeHosts).any (fun db =>
    db.findings.rows.all (fun row => row.rowId < 4) &&
    (listPage FindingDict.core db "tenant-a" none 2 none none none).2 == some 2 &&
    (runSteps (step FindingDict.core FindingDict.text) db fourthHost).any fun db' =>
      (listPage FindingDict.core db' "tenant-a" (some 2) 2 none none none).2 == none) = true := by
  decide +kernel

/-- The theorem applies to these two pages. -/
theorem pages_complete_twoPages : ∃ db pages, Traversal FindingDict.core FindingDict.text asciiDecimal allOfTenant db
    none pages ∧ Complete pages ∧ (seen pages).Pairwise (fun a b => b < a) ∧
      ∀ page ∈ pages, page.Correct FindingDict.core asciiDecimal allOfTenant := by
  obtain ⟨db, hreached, hfacts⟩ := (Option.any_eq_true _ _).mp threeHosts_pages
  rw [Bool.and_eq_true, Bool.and_eq_true, List.all_eq_true, beq_iff_eq] at hfacts
  obtain ⟨⟨hrows, hfirst⟩, hlater⟩ := hfacts
  obtain ⟨db', hrun, hsecond⟩ := (Option.any_eq_true _ _).mp hlater
  rw [beq_iff_eq] at hsecond
  have hsmall : 4 < integerBound := by decide
  have hlimit : 1 ≤ 2 := by decide
  have haddressed : ∀ row ∈ db.findings.rows, row.rowId < integerBound := fun row hrow =>
    (of_decide_eq_true (hrows row hrow)).trans hsmall
  have hdecode : decodeCursor asciiDecimal (encodeCursor 2) = some 2 :=
    decodeCursor_encodeCursor asciiDecimal_reads (by decide) (by decide +kernel)
  have hlast : PageRead.Answered FindingDict.core asciiDecimal allOfTenant
      ⟨db', some (encodeCursor 2), 2, _, none⟩ :=
    ⟨hlimit, (listPageAt_ok (pageStart_ok hdecode (by decide)) db' _ 2 _ _ _).trans (by
      unfold allOfTenant
      rw [hsecond]
      rfl)⟩
  have hpage : PageRead.Answered FindingDict.core asciiDecimal allOfTenant ⟨db, none, 2, _, some (encodeCursor 2)⟩ :=
    ⟨hlimit, (listPageAt_ok rfl db _ 2 _ _ _).trans (by
      unfold allOfTenant
      rw [hfirst]
      rfl)⟩
  have htraversal : Traversal FindingDict.core FindingDict.text asciiDecimal allOfTenant db none _ :=
    Traversal.more hpage rfl hrun (Traversal.last hlast rfl)
  have hall := (pages_complete FindingDict.core FindingDict.text asciiDecimal_reads hreached haddressed
    allOfTenant).2.2 _ htraversal
  exact ⟨db, _, htraversal, ⟨_, rfl, rfl⟩, hall.1, hall.2.1⟩

end FindingLifecycle

end SharedIntegration
