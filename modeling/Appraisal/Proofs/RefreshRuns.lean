import Appraisal.Double
import Appraisal.Proofs.LastWrites
import Appraisal.Proofs.Reports

/-!
# Runs and the refresh queue

After any run the queue lists each catalog number that a failure has named, with the moment of the
first of these failures and their count. Loading leaves the queue alone, and all other requests leave
the tables alone.
-/

namespace Appraisal

namespace RefreshQueue

/-- The row of a number after another request for it. -/
def again (now : Moment) : Option RefreshRow → RefreshRow
  | some row => { row with count := row.count + 1 }
  | none => ⟨now.text, 1⟩

lemma get?_enter (queue : RefreshQueue) (now : Moment) (key other : String) :
    (queue.enter now key).get? other =
      if other = key then some (again now (queue.get? key)) else queue.get? other := by
  unfold enter
  split
  · rename_i row hrow
    rw [Keyed.get?_insert, hrow]
    rfl
  · rename_i hrow
    rw [Keyed.get?_insert, hrow]
    rfl

/-- Every number of a request is counted once. -/
lemma get?_enqueue (queue : RefreshQueue) (now : Moment) {keys : List String} (hkeys : keys.Nodup)
    (key : String) :
    (queue.enqueue now keys).get? key =
      if key ∈ keys then some (again now (queue.get? key)) else queue.get? key := by
  unfold enqueue
  induction keys generalizing queue with
  | nil => simp
  | cons first rest ih =>
    rw [List.nodup_cons] at hkeys
    rw [List.foldl_cons, ih _ hkeys.2, get?_enter]
    by_cases hfirst : key = first
    · subst hfirst
      simp [hkeys.1]
    · simp [hfirst]

/-- Moments, each with the numbers that were named then. -/
abbrev Log := List (Moment × List String)

/-- The queue after the requests of a log. -/
def replay (log : Log) (queue : RefreshQueue) : RefreshQueue :=
  log.foldl (fun queue entry => queue.enqueue entry.1 (sortedDistinct entry.2)) queue

/-- A log leaves the count of how often a number was named, under the moment of the first time. -/
lemma get?_replay (log : Log) (queue : RefreshQueue) (key : String) :
    (replay log queue).get? key =
      match queue.get? key with
      | some row => some { row with count := row.count + log.countP (key ∈ ·.2) }
      | none => (log.find? (key ∈ ·.2)).map fun first => ⟨first.1.text, log.countP (key ∈ ·.2)⟩ := by
  induction log generalizing queue with
  | nil =>
    cases h : queue.get? key with
    | none => simp [replay, h]
    | some row => simp [replay, h]
  | cons entry rest ih =>
    have hnext := get?_enqueue queue entry.1 (sortedDistinct_nodup entry.2) key
    simp only [mem_sortedDistinct] at hnext
    change (replay rest (queue.enqueue entry.1 (sortedDistinct entry.2))).get? key = _
    rw [ih, hnext]
    -- The first entry that names a number makes its row, and the later ones only count.
    by_cases hkey : key ∈ entry.2
    · cases h : queue.get? key with
      | none => simp [hkey, again, Nat.add_comm]
      | some row => simp [hkey, again, Nat.add_assoc, Nat.add_comm]
    · cases h : queue.get? key with
      | none => simp [hkey]
      | some row => simp [hkey]

lemma get?_replay_empty (log : Log) (key : String) :
    (replay log .empty).get? key =
      (log.find? (key ∈ ·.2)).map fun first => ⟨first.1.text, log.countP (key ∈ ·.2)⟩ := by
  rw [get?_replay]
  rfl

/-! ### Listing -/

lemma isBefore_iff (a b : String × RefreshRow) :
    isBefore a b = true ↔
      a.2.requestedAt < b.2.requestedAt ∨ a.2.requestedAt = b.2.requestedAt ∧ a.1 ≤ b.1 := by
  unfold isBefore
  by_cases h : a.2.requestedAt = b.2.requestedAt
  · have hnot : ¬a.2.requestedAt < b.2.requestedAt := h ▸ String.lt_irrefl _
    rw [if_pos h, decide_eq_true_eq]
    tauto
  · rw [if_neg h, decide_eq_true_eq]
    tauto

lemma isBefore_trans (a b c : String × RefreshRow) (hab : isBefore a b) (hbc : isBefore b c) :
    isBefore a c := by
  rw [isBefore_iff] at hab hbc ⊢
  rcases hab with hab | ⟨hab, hab'⟩
  · rcases hbc with hbc | ⟨hbc, -⟩
    · exact .inl (String.lt_trans hab hbc)
    · exact .inl (hbc ▸ hab)
  · rcases hbc with hbc | ⟨hbc, hbc'⟩
    · exact .inl (hab ▸ hbc)
    · exact .inr ⟨hab.trans hbc, String.le_trans hab' hbc'⟩

lemma isBefore_total (a b : String × RefreshRow) : isBefore a b || isBefore b a := by
  rw [Bool.or_eq_true, isBefore_iff, isBefore_iff]
  by_cases h : a.2.requestedAt = b.2.requestedAt
  · rcases String.le_total a.1 b.1 with hle | hle
    · exact .inl (.inr ⟨h, hle⟩)
    · exact .inr (.inr ⟨h.symm, hle⟩)
  · by_cases hlt : a.2.requestedAt < b.2.requestedAt
    · exact .inl (.inl hlt)
    · by_cases hgt : b.2.requestedAt < a.2.requestedAt
      · exact .inr (.inl hgt)
      · exact absurd (Keyed.eq_of_not_lt hlt hgt) h

/-- The rows in the order in which they are listed. -/
def ordered (queue : RefreshQueue) : List (String × RefreshRow) := queue.entries.mergeSort isBefore

lemma mem_ordered (queue : RefreshQueue) {key : String} {row : RefreshRow} :
    (key, row) ∈ queue.ordered ↔ queue.get? key = some row := by
  rw [ordered, List.mem_mergeSort, Keyed.mem_entries_iff]

lemma ordered_keys_nodup (queue : RefreshQueue) : (queue.ordered.map (·.1)).Nodup := by
  have hperm := (List.mergeSort_perm queue.entries isBefore).map fun e : String × RefreshRow => e.1
  exact hperm.nodup_iff.mpr queue.keys_nodup

lemma ordered_pairwise (queue : RefreshQueue) : queue.ordered.Pairwise (isBefore · ·) :=
  List.pairwise_mergeSort isBefore_trans isBefore_total queue.entries

/-- The request that a row with a small count stands for. -/
def request (entry : String × RefreshRow) : RefreshRequest :=
  ⟨entry.1, entry.2.requestedAt, UInt32.ofNat entry.2.count⟩

/-- As long as no count is too large, all rows are listed. -/
lemma pending_eq (queue : RefreshQueue)
    (hsmall : ∀ key row, queue.get? key = some row → row.count < UInt32.size) :
    queue.pending = .ok (queue.ordered.map request) := by
  refine mapM_eq_ok ?_
  rintro ⟨key, row⟩ hmem
  exact if_pos (hsmall key row (queue.mem_ordered.mp hmem))

end RefreshQueue

namespace Service
variable {α : Type} [Arithmetic α] [NumberText α]

omit [Arithmetic α] [NumberText α] in
lemma takeRefreshes_eq (db : Database α) (now : Moment) (calls : List Call) :
    db.takeRefreshes now calls =
      { db with
        queue := (calls.filterMap Call.refreshed?).foldl (fun q keys => q.enqueue now keys) db.queue } := by
  induction calls generalizing db with
  | nil => rfl
  | cons call rest ih =>
    rw [Database.takeRefreshes, List.foldl_cons]
    change Database.takeRefreshes _ now rest = _
    rw [ih]
    cases call <;> rfl

omit [Arithmetic α] [NumberText α] in
lemma enqueue_of_reports {β : Type} {x : Traced β} (hx : x.Reports) (db : Database α) (now : Moment) :
    db.takeRefreshes now x.calls =
      { db with queue := db.queue.enqueue now (sortedDistinct (namedBy x.result)) } := by
  rw [takeRefreshes_eq]
  change { db with queue := x.refreshes.foldl _ db.queue } = _
  rw [Traced.Reports] at hx
  rw [hx]
  cases hresult : x.result with
  | ok a => rfl
  | error e => cases e <;> rfl

lemma namedBy_of_blameless {β : Type} {result : Except Failure β} (h : Blameless result) :
    namedBy result = [] := by
  cases result with
  | ok a => rfl
  | error e =>
    cases e with
    | incomplete products => exact absurd rfl (h products)
    | _ => rfl

lemma namedBy_map {β γ : Type} (result : Except Failure β) (f : β → γ) :
    namedBy (result.map f) = namedBy result := by
  cases result <;> rfl

lemma pending_blameless (queue : RefreshQueue) : Blameless queue.pending := by
  refine Blameless.mapM (fun entry => ?_) _
  unfold RefreshQueue.read
  split
  · exact .ok _
  · exact .error fun products h => by cases h

/-- A step enters the numbers that its answer names. -/
lemma step_queue (s : Settings) (today : Date) (now : Moment) (db : Database α) (request : Request α) :
    (step s today now db request).1.queue =
      db.queue.enqueue now (sortedDistinct (namedBy (step s today now db request).2)) := by
  cases request with
  | load bundle => exact db.load_queue bundle
  | pending =>
    change db.queue = db.queue.enqueue now (sortedDistinct (namedBy (db.queue.pending.map _)))
    rw [namedBy_map, namedBy_of_blameless (pending_blameless _)]
    rfl
  | ask query =>
    have hreports : ((engine s today db).reply query).Reports :=
      Engine.reply_reports rfl db.sources_blameless query
    change (db.takeRefreshes now _).queue = db.queue.enqueue now (sortedDistinct (namedBy (Except.map _ _)))
    rw [enqueue_of_reports hreports, namedBy_map]

/-- A step that does not load changes nothing but the queue. -/
lemma step_tables (s : Settings) (today : Date) (now : Moment) (db : Database α) {request : Request α}
    (hload : ∀ bundle, request ≠ .load bundle) :
    ∃ queue, (step s today now db request).1 = { db with queue } := by
  cases request with
  | load bundle => exact absurd rfl (hload bundle)
  | pending => exact ⟨db.queue, rfl⟩
  | ask query => exact ⟨_, takeRefreshes_eq db now _⟩

/-- The steps of a run, each with its answer. -/
def steps (s : Settings) (db : Database α) (arrivals : List (Arrival α)) :
    List (Arrival α × Except Failure (Answer α)) :=
  arrivals.zip (run s db arrivals).2

/-- The moments and the named numbers of some steps. -/
def logOf (steps : List (Arrival α × Except Failure (Answer α))) : RefreshQueue.Log :=
  steps.map fun step => (step.1.now, namedBy step.2)

/-- The queue holds what the answers of the run named. -/
lemma run_queue (s : Settings) (db : Database α) (arrivals : List (Arrival α)) :
    (run s db arrivals).1.queue = RefreshQueue.replay (logOf (steps s db arrivals)) db.queue := by
  induction arrivals generalizing db with
  | nil => rfl
  | cons arrival rest ih =>
    have hstep := step_queue s arrival.today arrival.now db arrival.request
    have hrest := ih (step s arrival.today arrival.now db arrival.request).1
    rw [hstep] at hrest
    exact hrest

lemma length_steps_le (s : Settings) (db : Database α) (arrivals : List (Arrival α)) :
    (steps s db arrivals).length ≤ arrivals.length := by
  rw [steps, List.length_zip]
  exact Nat.min_le_left _ _

omit [Arithmetic α] [NumberText α] in
/-- The moment of the first step whose failure named a number. -/
def firstNaming? (steps : List (Arrival α × Except Failure (Answer α))) (key : String) : Option Moment :=
  (steps.find? fun step => key ∈ namedBy step.2).map (·.1.now)

/-- The row of a number counts the steps that named it, and shows the moment of the first of them. -/
lemma get?_run_queue (s : Settings) (arrivals : List (Arrival α)) (key : String) :
    (run s .empty arrivals).1.queue.get? key =
      (firstNaming? (steps s .empty arrivals) key).map fun first =>
        ⟨first.text, (steps s .empty arrivals).countP (key ∈ namedBy ·.2)⟩ := by
  rw [run_queue]
  change (RefreshQueue.replay _ .empty).get? key = _
  rw [RefreshQueue.get?_replay_empty, logOf, List.find?_map, List.countP_map, firstNaming?]
  simp only [Option.map_map, Function.comp_def]

omit [Arithmetic α] [NumberText α] in
lemma firstNaming?_isSome_iff (steps : List (Arrival α × Except Failure (Answer α))) (key : String) :
    (∃ first, firstNaming? steps key = some first) ↔ ∃ step ∈ steps, key ∈ namedBy step.2 := by
  unfold firstNaming?
  constructor
  · rintro ⟨first, h⟩
    obtain ⟨step, hstep, -⟩ := Option.map_eq_some_iff.mp h
    exact ⟨step, List.mem_of_find?_eq_some hstep, by simpa using List.find?_some hstep⟩
  · rintro ⟨step, hstep, hkey⟩
    have hsome : (steps.find? fun step => key ∈ namedBy step.2).isSome :=
      List.find?_isSome.mpr ⟨step, hstep, by simpa using hkey⟩
    obtain ⟨found, hfound⟩ := Option.isSome_iff_exists.mp hsome
    exact ⟨found.1.now, by rw [hfound]; rfl⟩

lemma countP_lt (s : Settings) (arrivals : List (Arrival α)) (hcount : arrivals.length < 2 ^ 32)
    (p : Arrival α × Except Failure (Answer α) → Bool) :
    (steps s .empty arrivals).countP p < UInt32.size := by
  have hcountP : (steps s .empty arrivals).countP p ≤ (steps s .empty arrivals).length :=
    List.countP_le_length
  have hlength := length_steps_le s (.empty : Database α) arrivals
  change _ < 2 ^ 32
  omega

/-- The requests that are listed after a run. -/
def requests (s : Settings) (arrivals : List (Arrival α)) : List RefreshRequest :=
  (run s .empty arrivals).1.queue.ordered.map RefreshQueue.request

/-- As long as a run has few enough steps, its requests can be listed. -/
lemma pending_run (s : Settings) (arrivals : List (Arrival α)) (hcount : arrivals.length < 2 ^ 32) :
    (run s .empty arrivals).1.queue.pending = .ok (requests s arrivals) := by
  refine RefreshQueue.pending_eq _ ?_
  intro key row hrow
  rw [get?_run_queue] at hrow
  obtain ⟨first, -, rfl⟩ := Option.map_eq_some_iff.mp hrow
  exact countP_lt s arrivals hcount _

/-- A request is listed for a number that was named, and shows when it was and how often. -/
lemma mem_requests (s : Settings) (arrivals : List (Arrival α)) (r : RefreshRequest) :
    r ∈ requests s arrivals ↔ ∃ first, firstNaming? (steps s .empty arrivals) r.catalogNumber = some first ∧
      r = ⟨r.catalogNumber, first.text,
        .ofNat ((steps s .empty arrivals).countP fun step => r.catalogNumber ∈ namedBy step.2)⟩ := by
  constructor
  · intro h
    obtain ⟨⟨key, row⟩, hmem, rfl⟩ := List.mem_map.mp h
    rw [RefreshQueue.mem_ordered, get?_run_queue] at hmem
    obtain ⟨first, hfirst, rfl⟩ := Option.map_eq_some_iff.mp hmem
    exact ⟨first, hfirst, rfl⟩
  · rintro ⟨first, hfirst, hr⟩
    refine List.mem_map.mpr ⟨(r.catalogNumber, ⟨first.text, _⟩), ?_, hr.symm⟩
    rw [RefreshQueue.mem_ordered, get?_run_queue, hfirst]
    rfl

lemma requests_numbers (s : Settings) (arrivals : List (Arrival α)) :
    (requests s arrivals).map (·.catalogNumber) = (run s .empty arrivals).1.queue.ordered.map (·.1) := by
  rw [requests, List.map_map]
  rfl

/-- The requests are in the order of the moments in which their numbers were first named. -/
lemma requests_pairwise (s : Settings) (arrivals : List (Arrival α)) :
    (requests s arrivals).Pairwise fun a b => ∃ t u,
      firstNaming? (steps s .empty arrivals) a.catalogNumber = some t ∧
      firstNaming? (steps s .empty arrivals) b.catalogNumber = some u ∧
      (t < u ∨ t = u ∧ a.catalogNumber < b.catalogNumber) := by
  have hbefore := RefreshQueue.ordered_pairwise (run s .empty arrivals).1.queue
  have hdistinct := List.pairwise_map.mp (RefreshQueue.ordered_keys_nodup (run s .empty arrivals).1.queue)
  rw [requests, List.pairwise_map]
  refine (hbefore.and hdistinct).imp_of_mem ?_
  rintro ⟨k, row⟩ ⟨l, row'⟩ hk hl ⟨hle, hne⟩
  rw [RefreshQueue.mem_ordered, get?_run_queue] at hk hl
  obtain ⟨t, ht, rfl⟩ := Option.map_eq_some_iff.mp hk
  obtain ⟨u, hu, rfl⟩ := Option.map_eq_some_iff.mp hl
  refine ⟨t, u, ht, hu, ?_⟩
  rcases (RefreshQueue.isBefore_iff _ _).mp hle with htext | ⟨htext, hkeys⟩
  · exact .inl (Moment.lt_of_text_lt htext)
  · refine .inr ⟨Moment.text_injective htext, ?_⟩
    by_contra hnot
    exact hne (String.le_antisymm hkeys (String.not_lt.mp hnot))

/-- A request that does not load leaves the answers of the tables. -/
lemma step_answers (s : Settings) (today : Date) (now : Moment) (db : Database α) {request : Request α}
    (hload : ∀ bundle, request ≠ .load bundle) (table : Table) :
    (∀ key, (step s today now db request).1.find table key = db.find table key) ∧
      ∀ keys, (step s today now db request).1.query table keys = db.query table keys := by
  obtain ⟨queue, hqueue⟩ := step_tables s today now db hload
  rw [hqueue]
  cases table <;> exact ⟨fun _ => rfl, fun _ => rfl⟩

/-- After a run of less than `2 ^ 32` steps each catalog number that a failure has named is listed
once, with the count of the steps whose failures named it. The list is in the order of the first of
these steps, and then of the numbers. Loading does not change the queue, and no other request changes
what the tables answer. -/
theorem pending_counts_failures (s : Settings) (arrivals : List (Arrival α))
    (hcount : arrivals.length < 2 ^ 32) :
    (∃ requests : List RefreshRequest,
      (∀ today now, (step s today now (run s .empty arrivals).1 .pending).2 = .ok (.pending requests)) ∧
      (requests.map (·.catalogNumber)).Nodup ∧
      (∀ key, key ∈ requests.map (·.catalogNumber) ↔
        ∃ step ∈ steps s .empty arrivals, key ∈ namedBy step.2) ∧
      (∀ r ∈ requests, r.count.toNat =
        (steps s .empty arrivals).countP fun step => r.catalogNumber ∈ namedBy step.2) ∧
      (∀ r ∈ requests, ∃ first, firstNaming? (steps s .empty arrivals) r.catalogNumber = some first ∧
        r.requestedAt = first.text) ∧
      requests.Pairwise fun a b => ∃ t u,
        firstNaming? (steps s .empty arrivals) a.catalogNumber = some t ∧
        firstNaming? (steps s .empty arrivals) b.catalogNumber = some u ∧
        (t < u ∨ t = u ∧ a.catalogNumber < b.catalogNumber)) ∧
    (∀ db : Database α, ∀ today now bundle, (step s today now db (.load bundle)).1.queue = db.queue) ∧
    (∀ db : Database α, ∀ today now request, (∀ bundle, request ≠ .load bundle) → ∀ table,
      (∀ key, (step s today now db request).1.find table key = db.find table key) ∧
      ∀ keys, (step s today now db request).1.query table keys = db.query table keys) := by
  refine ⟨⟨requests s arrivals, ?_, ?_, ?_, ?_, ?_, requests_pairwise s arrivals⟩, ?_, ?_⟩
  · intro today now
    change (run s .empty arrivals).1.queue.pending.map _ = _
    rw [pending_run s arrivals hcount]
    rfl
  · rw [requests_numbers]
    exact RefreshQueue.ordered_keys_nodup _
  · intro key
    rw [← firstNaming?_isSome_iff, List.mem_map]
    constructor
    · rintro ⟨r, hr, rfl⟩
      obtain ⟨first, hfirst, -⟩ := (mem_requests s arrivals r).mp hr
      exact ⟨first, hfirst⟩
    · rintro ⟨first, hfirst⟩
      refine ⟨⟨key, first.text, .ofNat ((steps s .empty arrivals).countP fun step => key ∈ namedBy step.2)⟩,
        ?_, rfl⟩
      exact (mem_requests s arrivals _).mpr ⟨first, hfirst, rfl⟩
  · intro r hr
    obtain ⟨first, -, heq⟩ := (mem_requests s arrivals r).mp hr
    rw [heq]
    exact UInt32.toNat_ofNat_of_lt' (countP_lt s arrivals hcount _)
  · intro r hr
    obtain ⟨first, hfirst, heq⟩ := (mem_requests s arrivals r).mp hr
    exact ⟨first, hfirst, by rw [heq]⟩
  · intro db today now bundle
    exact db.load_queue bundle
  · intro db today now request hload table
    exact step_answers s today now db hload table

/-- Two listings of one set and one of another are asked for, before and after a guide is loaded. -/
def visit : List (Arrival Float) :=
  let day : Date := ⟨2026, 6, 2, by decide⟩
  let products : List (Product Float) := [
    { id := "falcon", name := "Falcon", catalogNumber := some "75192-1" },
    { id := "resale", name := "Falcon, opened", catalogNumber := some "75192-1" },
    { id := "castle", name := "Castle", catalogNumber := some "10305-1" }]
  let guide : PriceGuide := {
    catalogNumber := "75192-1", currentNew := some {}, currentUsed := some {}, sixMonthNew := some {},
    sixMonthUsed := some {} }
  [⟨⟨1, by decide⟩, day, .load { products }⟩,
   ⟨⟨2, by decide⟩, day, .ask (.analyze "falcon" none)⟩,
   ⟨⟨3, by decide⟩, day, .ask (.analyzeAll ["resale", "castle", "falcon"] none)⟩,
   ⟨⟨4, by decide⟩, day, .load { guides := [guide] }⟩,
   ⟨⟨5, by decide⟩, day, .ask (.gatherAll ["castle", "falcon"])⟩]

theorem visit_pending :
    visit.length < 2 ^ 32 ∧ ∃ requests : List RefreshRequest,
      (∀ today now, (step {} today now (run {} .empty visit).1 .pending).2 = .ok (.pending requests)) ∧
      ∃ r ∈ requests, r.catalogNumber = "75192-1" ∧ r.count.toNat = 2 := by
  have hcount : visit.length < 2 ^ 32 := by decide
  obtain ⟨⟨requests, hpending, -, hnumbers, hcounts, -, -⟩, -, -⟩ :=
    pending_counts_failures {} visit hcount
  have hnamed : (steps {} .empty visit).map (namedBy ·.2) =
      [[], ["75192-1"], ["75192-1", "10305-1", "75192-1"], [], ["10305-1"]] := by decide +kernel
  have hfalcon : "75192-1" ∈ requests.map (·.catalogNumber) := by
    rw [hnumbers]
    have hmem : ["75192-1"] ∈ (steps {} .empty visit).map (namedBy ·.2) := by simp [hnamed]
    obtain ⟨step, hstep, heq⟩ := List.mem_map.mp hmem
    exact ⟨step, hstep, by simp [heq]⟩
  obtain ⟨r, hr, hkey⟩ := List.mem_map.mp hfalcon
  refine ⟨hcount, requests, hpending, r, hr, hkey, ?_⟩
  rw [hcounts r hr, hkey]
  have hcountP := congrArg (List.countP fun names => "75192-1" ∈ names) hnamed
  rw [List.countP_map] at hcountP
  exact hcountP.trans (by decide)

end Service
end Appraisal
