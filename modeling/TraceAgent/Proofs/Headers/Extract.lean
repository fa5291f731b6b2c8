import Mathlib
import TraceAgent.Propagation

/-!
# Reading a remote trace from its headers

Reading a carrier never fails: it answers with one of three remote traces, and which one is
decided by the headers alone, in a fixed order.

* The caller asked not to sample when the sampled header, trimmed, is `s0`; this wins over
  everything else.
* Otherwise the headers name a trace id when the transaction id and the span id are present and
  read, and the parent span id and the flags are each absent or read; every value is trimmed
  before it is read. An absent parent is no span and absent flags are `0`. The caller's
  application and the host are passed on as they stand.
* In every other case, a malformed optional header included, there is no remote trace.

Main statements:

* `RemoteTrace.readHeader_eq_ok_iff`, `RemoteTrace.readTraceId_eq_ok_iff` — what each read
  accepts;
* `RemoteTrace.extract_decides` — the three answers and exactly when each is given.
-/

namespace TraceAgent

namespace RemoteTrace

/-- Header `name` is present and its value, trimmed, reads as `a`. -/
def Reads {α : Type} (h : HeaderMap) (name : String) (read : String → Option α) (a : α) : Prop :=
  ∃ v, h.get name = some v ∧ read (Text.trimBlank v) = some a

/-- Header `name` is absent (`none`), or present with a value that reads, trimmed, as `a`. -/
def ReadsIfPresent {α : Type} (h : HeaderMap) (name : String) (read : String → Option α) :
    Option α → Prop
  | none => h.get name = none
  | some a => Reads h name read a

/-- The caller asked not to sample: the sampled header, trimmed, is `s0`. -/
def MarkedNotSampled (h : HeaderMap) : Prop :=
  ∃ v, h.get sampledHeader = some v ∧ Text.trimBlank v = "s0"

/-- The headers name the caller's trace id `id`: the transaction id and the span id are present
and read, the parent span id and the flags are absent or read. The parent defaults to no span and
the flags to `0`. -/
def Names (h : HeaderMap) (id : TraceId) : Prop :=
  ∃ (tx : TransactionId) (span : Int) (parent : Option Int) (flags : Option Nat),
    Reads h txidHeader (fun s => (TransactionId.ofString? s).toOption) tx ∧
    Reads h spanIdHeader Decimal.readI64 span ∧
    ReadsIfPresent h parentSpanIdHeader Decimal.readI64 parent ∧
    ReadsIfPresent h flagsHeader Decimal.readU16 flags ∧
    id = ⟨tx, SpanId.ofInt span, (parent.map SpanId.ofInt).getD SpanId.none, (flags.getD 0).toUInt16⟩

variable {α : Type} {h : HeaderMap} {name : String} {read : String → Option α}

/-- A header read fails only on a value that is present and does not read. -/
theorem readHeader_eq_ok_iff {o : Option α} :
    readHeader h name read = .ok o ↔ ReadsIfPresent h name read o := by
  unfold readHeader
  cases hget : h.get name with
  | none => cases o <;> simp [ReadsIfPresent, Reads, hget]
  | some v =>
    cases hread : read (Text.trimBlank v) <;> cases o <;> simp [ReadsIfPresent, Reads, hget, hread]

/-- An absent parent is read as no span. -/
theorem parent_default (p : Option Int) :
    SpanId.ofInt (p.getD (-1)) = (p.map SpanId.ofInt).getD SpanId.none := by
  cases p <;> rfl

/-- The trace id read from the headers, given the transaction id header's value: it reads exactly
when the headers name it. -/
theorem readTraceId_eq_ok_iff {txid : String} (hget : h.get txidHeader = some txid) {id : TraceId} :
    readTraceId h txid = .ok id ↔ Names h id := by
  -- each read in turn: the first that fails makes the whole read fail
  have htx : ∀ tx, Reads h txidHeader (fun s => (TransactionId.ofString? s).toOption) tx ↔
      TransactionId.ofString? (Text.trimBlank txid) = .ok tx := by
    intro tx
    simp only [Reads, hget, Option.some.injEq, exists_eq_left']
    cases TransactionId.ofString? (Text.trimBlank txid) <;> simp [Except.toOption]
  have hspan : ∀ s, Reads h spanIdHeader Decimal.readI64 s ↔
      readHeader h spanIdHeader Decimal.readI64 = .ok (some s) := fun s =>
    (readHeader_eq_ok_iff (o := some s)).symm
  unfold readTraceId Names
  simp only [htx, hspan, ← readHeader_eq_ok_iff, parent_default]
  cases TransactionId.ofString? (Text.trimBlank txid) <;>
    cases readHeader h spanIdHeader Decimal.readI64 with
    | error e => simp [bind, Except.bind]
    | ok s =>
      cases s <;>
        cases readHeader h parentSpanIdHeader Decimal.readI64 <;>
          cases readHeader h flagsHeader Decimal.readU16 <;>
            simp [bind, Except.bind, pure, Except.pure, throw, throwThe, MonadExceptOf.throw, eq_comm]

theorem any_trim_s0_iff :
    (h.get sampledHeader).any (fun v => Text.trimBlank v == "s0") = true ↔ MarkedNotSampled h := by
  cases hget : h.get sampledHeader <;> simp [MarkedNotSampled, hget]

theorem extract_of_marked (hm : MarkedNotSampled h) : (extract h).1 = .notSampled := by
  rw [extract, if_pos (any_trim_s0_iff.2 hm)]

theorem extract_of_get_none (hm : ¬ MarkedNotSampled h) (hget : h.get txidHeader = none) :
    (extract h).1 = .absent := by
  simp only [extract, if_neg (fun hany => hm (any_trim_s0_iff.1 hany)), hget]

theorem extract_of_read_ok (hm : ¬ MarkedNotSampled h) {txid : String}
    (hget : h.get txidHeader = some txid) {id : TraceId} (hread : readTraceId h txid = .ok id) :
    (extract h).1 = .resume id (h.get parentAppHeader) (h.get hostHeader) := by
  simp only [extract, if_neg (fun hany => hm (any_trim_s0_iff.1 hany)), hget, hread]

theorem extract_of_read_error (hm : ¬ MarkedNotSampled h) {txid : String}
    (hget : h.get txidHeader = some txid) {e : TraceError} (hread : readTraceId h txid = .error e) :
    (extract h).1 = .absent := by
  simp only [extract, if_neg (fun hany => hm (any_trim_s0_iff.1 hany)), hget, hread]

/-- Without a transaction id header the headers name no trace. -/
theorem not_names_of_get_none (hnone : h.get txidHeader = none) (id : TraceId) : ¬ Names h id := by
  rintro ⟨tx, -, -, -, ⟨v, hv, -⟩, -⟩
  rw [hnone] at hv
  cases hv

/-- The three answers, each with the condition that gives it, as one case analysis on the
headers. -/
theorem extract_cases (h : HeaderMap) :
    (MarkedNotSampled h ∧ (extract h).1 = .notSampled) ∨
    (¬ MarkedNotSampled h ∧ ∃ id, (∀ id', Names h id' ↔ id = id') ∧
      (extract h).1 = .resume id (h.get parentAppHeader) (h.get hostHeader)) ∨
    (¬ MarkedNotSampled h ∧ (∀ id, ¬ Names h id) ∧ (extract h).1 = .absent) := by
  by_cases hm : MarkedNotSampled h
  · exact .inl ⟨hm, extract_of_marked hm⟩
  cases hget : h.get txidHeader with
  | none => exact .inr (.inr ⟨hm, not_names_of_get_none hget, extract_of_get_none hm hget⟩)
  | some txid =>
    cases hread : readTraceId h txid with
    | ok id =>
      refine .inr (.inl ⟨hm, id, fun id' => ?_, extract_of_read_ok hm hget hread⟩)
      rw [← readTraceId_eq_ok_iff hget, hread, Except.ok.injEq]
    | error e =>
      refine .inr (.inr ⟨hm, fun id hn => ?_, extract_of_read_error hm hget hread⟩)
      rw [← readTraceId_eq_ok_iff hget, hread] at hn
      cases hn

/-- Reading a carrier never fails: it is not sampled exactly when the caller marked it so; it
continues the caller's trace, with the caller's application and host as they stand, exactly when
it is not so marked and the headers name a trace id; and there is no remote trace in every other
case. -/
theorem extract_decides (h : HeaderMap) :
    ((extract h).1 = .notSampled ↔ MarkedNotSampled h) ∧
    (∀ (id : TraceId) (app host : Option String), (extract h).1 = .resume id app host ↔
      ¬ MarkedNotSampled h ∧ Names h id ∧ app = h.get parentAppHeader ∧ host = h.get hostHeader) ∧
    ((extract h).1 = .absent ↔ ¬ MarkedNotSampled h ∧ ∀ id, ¬ Names h id) := by
  rcases extract_cases h with ⟨hm, hx⟩ | ⟨hm, id, hnames, hx⟩ | ⟨hm, hnone, hx⟩ <;> rw [hx]
  · -- the marker wins over every other header
    exact ⟨iff_of_true rfl hm, fun _ _ _ => iff_of_false (by simp) (fun h' => h'.1 hm),
      iff_of_false (by simp) (fun h' => h'.1 hm)⟩
  · refine ⟨iff_of_false (by simp) (fun h' => hm h'), fun id' app host => ?_,
      iff_of_false (by simp) (fun h' => h'.2 id ((hnames id).2 rfl))⟩
    rw [resume.injEq, hnames id']
    exact ⟨fun ⟨h1, h2, h3⟩ => ⟨hm, h1, h2.symm, h3.symm⟩, fun ⟨_, h1, h2, h3⟩ => ⟨h1, h2.symm, h3.symm⟩⟩
  · exact ⟨iff_of_false (by simp) (fun h' => hm h'),
      fun id _ _ => iff_of_false (by simp) (fun h' => hnone id h'.2.1), iff_of_true rfl ⟨hm, hnone⟩⟩

end RemoteTrace

end TraceAgent
