import Mathlib
import TraceAgent.Config
import TraceAgent.Proofs.Scopes.Gates

/-!
# Trace headers read back what was written

A call out of a recording trace writes the callee's trace id into a carrier as text: the
transaction id `agent^start^sequence`, the two span ids and the flags in decimal, then the
caller's application and the host it addresses. Reading the carrier back gives the same trace id,
application and host, provided the transaction id survives the trimming that reading applies to
it: its agent id must begin with a character that is not blank. Every such agent id comes back,
`^` included, since the two numbers are split off from the right. An agent id that begins with a
blank loses its leading blanks, although the configuration accepts it: `Config.ofEnv` refuses
only blank agent ids and those holding `^`.

A trace that does not record writes the not-sampled marker alone, and any carrier holding it
reads back as not sampled.

Main statements:

* `Decimal.readUnsigned_repr`, `Decimal.readSigned_repr` — a printed number reads back;
* `TransactionId.ofString?_display` — a printed transaction id with an agent id reads back;
* `HeaderMap.get_set` — a carrier answers the last value set under a key, keys compared lowercase;
* `RemoteTrace.extract_injectHeaders` — the headers of a call, read back;
* `Agent.injected_headers_continue` — a call out of a trace continues its transaction on the
  other side, or is not sampled there;
* `Agent.blank_led_agent_id_is_trimmed` — the agent id ` agent`, accepted by the configuration,
  comes back as `agent`.
-/

namespace TraceAgent

/-! ## Printed numbers -/

namespace Decimal

theorem foldl_digitStep {cs : List Char} (h : ∀ c ∈ cs, c.isDigit = true) (n : Nat) :
    cs.foldl digitStep (some n) = some (Nat.ofDigitChars 10 cs n) := by
  induction cs generalizing n with
  | nil => rfl
  | cons c cs ih =>
    rw [List.foldl_cons, digitStep, Option.bind_some, if_pos (h c List.mem_cons_self),
      ih (fun d hd => h d (List.mem_cons_of_mem c hd)), Nat.ofDigitChars_cons]

/-- The decimal digits of a number read back as that number. -/
theorem readDigits_toDigits (n : Nat) : readDigits (Nat.toDigits 10 n) = some n := by
  have hdigits : ∀ c ∈ Nat.toDigits 10 n, c.isDigit = true :=
    fun c hc => Nat.isDigit_of_mem_toDigits (by decide) (by decide) hc
  rw [readDigits, if_neg (by simp [Nat.toDigits_ne_nil]), digitsValue,
    foldl_digitStep hdigits, Nat.ofDigitChars_ten_toDigits]

/-- The digits of a number start with a digit, never with a sign. -/
theorem toDigits_eq_cons (n : Nat) :
    ∃ c cs, Nat.toDigits 10 n = c :: cs ∧ c ≠ '+' ∧ c ≠ '-' := by
  obtain ⟨c, cs, hcs⟩ := List.exists_cons_of_ne_nil (Nat.toDigits_ne_nil (b := 10) (n := n))
  have hmem : c ∈ Nat.toDigits 10 n := by
    rw [hcs]
    exact List.mem_cons_self
  have hc : c.isDigit = true := Nat.isDigit_of_mem_toDigits (by decide) (by decide) hmem
  refine ⟨c, cs, hcs, ?_, ?_⟩ <;> rintro rfl <;> simp at hc

theorem dropPlus_of_ne {c : Char} (cs : List Char) (h : c ≠ '+') : dropPlus (c :: cs) = c :: cs := by
  unfold dropPlus
  split <;> simp_all

theorem splitSign_of_ne {c : Char} (cs : List Char) (hplus : c ≠ '+') (hminus : c ≠ '-') :
    splitSign (c :: cs) = (false, c :: cs) := by
  unfold splitSign
  split <;> simp_all

/-- A number below the bound, printed, reads back. -/
theorem readUnsigned_repr {n bound : Nat} (h : n < bound) : readUnsigned bound n.repr = some n := by
  obtain ⟨c, cs, hcs, hplus, -⟩ := toDigits_eq_cons n
  rw [readUnsigned, Nat.toList_repr, hcs, dropPlus_of_ne cs hplus, ← hcs, readDigits_toDigits]
  exact if_pos h

/-- A number in `[lo, hi]`, printed with its sign, reads back. -/
theorem readSigned_repr {i lo hi : Int} (hlo : lo ≤ i) (hhi : i ≤ hi) :
    readSigned lo hi (toString i) = some i := by
  rw [Int.toString_eq_repr, Int.repr_eq_if]
  split
  · next hnn =>
    obtain ⟨c, cs, hcs, hplus, hminus⟩ := toDigits_eq_cons i.toNat
    simp only [readSigned, Nat.toList_repr, hcs, splitSign_of_ne cs hplus hminus]
    rw [← hcs, readDigits_toDigits]
    simp [Int.toNat_of_nonneg hnn, hlo, hhi]
  · next hneg =>
    have hv : -((-i).toNat : Int) = i := by omega
    simp only [readSigned, String.toList_append, Nat.toList_repr]
    rw [show "-".toList = ['-'] from rfl, List.singleton_append, splitSign, readDigits_toDigits]
    simp only [ite_true, hv]
    exact if_pos ⟨hlo, hhi⟩

end Decimal

/-! ## Printed transaction ids -/

namespace TransactionId

/-- The characters of a printed transaction id. -/
theorem toList_display (t : TransactionId) :
    t.display.toList = t.agentId.toList ++ transactionSeparator ::
      (Nat.toDigits 10 t.startTime.toNat ++ transactionSeparator :: Nat.toDigits 10 t.sequence.toNat) := by
  simp [display, transactionSeparator, Nat.toList_repr]

/-- A digit is no separator. -/
theorem digits_no_separator (n : Nat) :
    ∀ c ∈ Nat.toDigits 10 n, (c == transactionSeparator) = false := by
  intro c hc
  have hd : c.isDigit = true := Nat.isDigit_of_mem_toDigits (by decide) (by decide) hc
  rw [beq_eq_false_iff_ne]
  rintro rfl
  exact absurd hd (by decide)

/-- Splitting a printed transaction id at its separators splits the agent id, then gives the two
numbers. -/
theorem splitOn_display (t : TransactionId) :
    t.display.toList.splitOn transactionSeparator =
      t.agentId.toList.splitOn transactionSeparator ++
        [Nat.toDigits 10 t.startTime.toNat, Nat.toDigits 10 t.sequence.toNat] := by
  have hsep : (transactionSeparator == transactionSeparator) = true := beq_self_eq_true _
  rw [toList_display, List.splitOn_eq_splitOnP, List.splitOn_eq_splitOnP,
    List.splitOnP_append_cons (p := (· == transactionSeparator)) _ _ hsep,
    List.splitOnP_append_cons_of_forall_mem (digits_no_separator _) _ hsep,
    List.splitOnP_eq_singleton (digits_no_separator _)]

/-- The two numbers are split off a printed transaction id from the right, so the agent id comes
back whole, separators and all. -/
theorem splitLastTwo_display (t : TransactionId) :
    splitLastTwo t.display =
      some (t.agentId, toString t.startTime.toNat, toString t.sequence.toNat) := by
  obtain ⟨x, xs, hx⟩ := List.exists_cons_of_ne_nil
    (List.reverse_ne_nil_iff.2 (List.splitOn_ne_nil transactionSeparator t.agentId.toList))
  have hsplit : (t.display.toList.splitOn transactionSeparator).reverse =
      Nat.toDigits 10 t.sequence.toNat :: Nat.toDigits 10 t.startTime.toNat :: x :: xs := by
    rw [splitOn_display, List.reverse_append, hx]
    rfl
  rw [splitLastTwo, hsplit]
  simp only [← hx, List.reverse_reverse, List.intercalate_splitOn, String.ofList_toList,
    Nat.toString_eq_repr, Nat.repr_eq_ofList_toDigits]

/-- A printed transaction id reads back, provided it has an agent id. -/
theorem ofString?_display (t : TransactionId) (h : t.agentId ≠ "") : ofString? t.display = .ok t := by
  have hstart : Decimal.readU64 (toString t.startTime.toNat) = some t.startTime.toNat :=
    Decimal.readUnsigned_repr (UInt64.toNat_lt t.startTime)
  have hseq : Decimal.readU64 (toString t.sequence.toNat) = some t.sequence.toNat :=
    Decimal.readUnsigned_repr (UInt64.toNat_lt t.sequence)
  rw [ofString?, splitLastTwo_display]
  simp only [String.isEmpty_eq_false_iff.2 h, Bool.false_eq_true, if_false, hstart, hseq,
    UInt64.ofNat_toNat]

end TransactionId

/-! ## Blank ends -/

namespace Text

/-- A text that starts with a character that is not blank; such a text is not empty. -/
def startsNonBlank (s : String) : Bool :=
  match s.toList with
  | c :: _ => !isBlankChar c
  | [] => false

theorem isBlankChar_of_isDigit {c : Char} (h : c.isDigit = true) : isBlankChar c = false := by
  have hn : 48 ≤ c.toNat ∧ c.toNat ≤ 57 := by
    simpa [Char.isDigit, Char.le_def, UInt32.le_iff_toNat_le] using h
  simp only [isBlankChar, Bool.or_eq_false_iff, Bool.and_eq_false_iff, beq_eq_false_iff_ne,
    decide_eq_false_iff_not]
  omega

theorem dropWhile_of_head {l : List Char} (h : ∀ c, l.head? = some c → isBlankChar c = false) :
    l.dropWhile isBlankChar = l := by
  cases l with
  | nil => rfl
  | cons c cs => exact List.dropWhile_cons_of_neg (by simp [h c rfl])

/-- A text whose first and last characters are not blank is its own trimmed form. -/
theorem trimBlank_of_ends {s : String} (hhead : ∀ c, s.toList.head? = some c → isBlankChar c = false)
    (hlast : ∀ c, s.toList.getLast? = some c → isBlankChar c = false) : trimBlank s = s := by
  rw [trimBlank, dropWhile_of_head hhead, dropWhile_of_head (by simpa using hlast),
    List.reverse_reverse, String.ofList_toList]

/-- A text with no blank character is its own trimmed form. -/
theorem trimBlank_of_forall {s : String} (h : ∀ c ∈ s.toList, isBlankChar c = false) :
    trimBlank s = s :=
  trimBlank_of_ends (fun c hc => h c (List.mem_of_head? hc)) (fun c hc => h c (List.mem_of_getLast? hc))

/-- Decimal digits are not blank. -/
theorem digits_not_blank (n : Nat) : ∀ c ∈ Nat.toDigits 10 n, isBlankChar c = false := fun c hc =>
  isBlankChar_of_isDigit (Nat.isDigit_of_mem_toDigits (by decide) (by decide) hc)

/-- The printed form of an integer holds no blank character. -/
theorem int_repr_not_blank (i : Int) : ∀ c ∈ (toString i).toList, isBlankChar c = false := by
  rw [Int.toString_eq_repr, Int.repr_eq_if]
  split
  · simpa [Nat.toList_repr] using digits_not_blank i.toNat
  · intro c hc
    simp only [String.toList_append, Nat.toList_repr, List.mem_append] at hc
    rcases hc with hc | hc
    · rw [show "-".toList = ['-'] from rfl, List.mem_singleton] at hc
      subst hc
      decide
    · exact digits_not_blank _ c hc

/-! ## Texts that are their own lowercase form -/

/-- Below U+00C0 the lowercase runs hold the ASCII capitals only. -/
theorem lowerRuns_below_C0 :
    ∀ r ∈ lowerRuns, r.first = 0x41 ∧ r.last = 0x5A ∨ 0xC0 ≤ r.first := by
  decide +kernel

/-- A character below U+00C0 that is no ASCII capital is its own lowercase form. -/
theorem lowerChar_of_plain {c : Char} (hlt : c.toNat < 0xC0)
    (hcap : c.toNat < 0x41 ∨ 0x5A < c.toNat) : lowerChar c = c := by
  have hnone : lowerRuns.find?
      (fun r => r.first ≤ c.toNat && c.toNat ≤ r.last && (c.toNat - r.first) % r.step == 0) = none := by
    refine List.find?_eq_none.2 fun r hr => ?_
    simp only [Bool.and_eq_true, decide_eq_true_eq, not_and]
    rcases lowerRuns_below_C0 r hr with ⟨hfirst, hlast⟩ | hfirst <;> omega
  unfold lowerChar
  simp only [hnone]

/-- Characters below U+00C0 that are no ASCII capitals are their own lowercase forms, whatever
came before them: the two rules of more than one character are about `İ` and `Σ`, both above. -/
theorem lowerWith_of_plain (before : List Char) {cs : List Char}
    (h : ∀ c ∈ cs, c.toNat < 0xC0 ∧ (c.toNat < 0x41 ∨ 0x5A < c.toNat)) :
    lowerWith before cs = cs := by
  induction cs generalizing before with
  | nil => rfl
  | cons c rest ih =>
    obtain ⟨hlt, hcap⟩ := h c List.mem_cons_self
    have hdot : (c == 'İ') = false := by
      rw [beq_eq_false_iff_ne]
      rintro rfl
      simp at hlt
    have hsigma : (c == 'Σ') = false := by
      rw [beq_eq_false_iff_ne]
      rintro rfl
      simp at hlt
    rw [lowerWith, hdot, hsigma, if_neg Bool.false_ne_true, if_neg Bool.false_ne_true,
      lowerChar_of_plain hlt hcap, ih (c :: before) fun d hd => h d (List.mem_cons_of_mem c hd)]
    rfl

/-- A text of characters below U+00C0 with no ASCII capital is its own lowercase form. -/
theorem toLowerFull_of_plain {s : String}
    (h : ∀ c ∈ s.toList, c.toNat < 0xC0 ∧ (c.toNat < 0x41 ∨ 0x5A < c.toNat)) :
    toLowerFull s = s := by
  rw [toLowerFull, lowerWith_of_plain [] h, String.ofList_toList]

end Text

/-! ## Carriers -/

namespace HeaderMap

/-- Cutting a list in two by a test and joining the halves keeps the first entry a search finds,
when the entries it can find all fall in the same half. -/
theorem find?_partition_append {α : Type} {l : List α} {p q : α → Bool}
    (h : ∀ x ∈ l, ∀ y ∈ l, p x = true → p y = true → q x = q y) :
    ((l.partition q).1 ++ (l.partition q).2).find? p = l.find? p := by
  rw [List.partition_eq_filter_filter, ← List.head?_filter, List.filter_append, List.filter_filter,
    List.filter_filter, ← List.head?_filter]
  by_cases hq : ∃ y ∈ l, p y = true ∧ q y = false
  · -- every entry the search can find is cut off into the second half
    obtain ⟨y, hy, hpy, hqy⟩ := hq
    have hall : ∀ x ∈ l, p x = true → q x = false := fun x hx hpx =>
      (h x hx y hy hpx hpy).trans hqy
    have hin : (l.filter fun a => p a && q a) = [] :=
      List.filter_eq_nil_iff.2 fun x hx => by cases hpx : p x <;> simp [hpx, hall x hx]
    have hout : (l.filter fun a => p a && (not ∘ q) a) = l.filter p :=
      List.filter_congr fun x hx => by cases hpx : p x <;> simp [hpx, hall x hx]
    rw [hin, hout, List.nil_append]
  · -- every entry the search can find stays in the first half
    have hall : ∀ x ∈ l, p x = true → q x = true := fun x hx hpx => by
      cases hqx : q x
      · exact absurd ⟨x, hx, hpx, hqx⟩ hq
      · rfl
    have hin : (l.filter fun a => p a && q a) = l.filter p :=
      List.filter_congr fun x hx => by cases hpx : p x <;> simp [hpx, hall x hx]
    have hout : (l.filter fun a => p a && (not ∘ q) a) = [] :=
      List.filter_eq_nil_iff.2 fun x hx => by cases hpx : p x <;> simp [hpx, hall x hx]
    rw [hin, hout, List.append_nil]

/-- Filtering out entries a search cannot find changes nothing it finds. -/
theorem find?_filter_of_imp {α : Type} {l : List α} {p q : α → Bool}
    (h : ∀ x ∈ l, p x = true → q x = true) : (l.filter q).find? p = l.find? p := by
  rw [← List.head?_filter, List.filter_filter, ← List.head?_filter]
  congr 1
  exact List.filter_congr fun x hx => by cases hpx : p x <;> simp [hpx, h x hx]

theorem entries_insertRaw (h : HeaderMap) (key value : String) :
    (h.insertRaw key value).entries =
      ((h.entries.filter fun e => e.1 != key).partition fun e => e.1 < key).1 ++
        (key, value) :: ((h.entries.filter fun e => e.1 != key).partition fun e => e.1 < key).2 := by
  simp [insertRaw]

/-- A raw insertion answers the new value under its own key and leaves the other keys alone. -/
theorem getRaw_insertRaw (h : HeaderMap) (key value k : String) :
    (h.insertRaw key value).getRaw k = if key = k then some value else h.getRaw k := by
  have hsmall : ∀ x ∈ ((h.entries.filter fun e => e.1 != key).partition fun e => e.1 < key).1,
      x.1 ≠ key := by
    intro x hx
    simp only [List.partition_eq_filter_filter, List.mem_filter, bne_iff_ne] at hx
    exact hx.1.2
  rw [getRaw, getRaw, entries_insertRaw, List.find?_append, List.find?_cons]
  by_cases hk : key = k
  · -- the new entry is the first under its key
    subst hk
    rw [List.find?_eq_none.2 fun x hx hxk => hsmall x hx (by simpa using hxk)]
    simp
  · -- the new entry is skipped, and the others are searched in their old order
    have hskip : ((key, value).1 == k) = false := by simpa using hk
    rw [hskip, if_neg hk, ← List.find?_append, find?_partition_append, find?_filter_of_imp]
    · intro x _ hx
      simp only [beq_iff_eq] at hx
      simp [hx, Ne.symm hk]
    · intro x _ y _ hx hy
      simp only [beq_iff_eq] at hx hy
      rw [hx, hy]

@[simp] theorem get_empty (k : String) : ({} : HeaderMap).get k = none := rfl

/-- A carrier answers the last value set under a key, keys compared in lowercase. -/
theorem get_set (h : HeaderMap) (key value k : String) :
    (h.set key value).get k =
      if Text.toLowerFull key = Text.toLowerFull k then some value else h.get k :=
  getRaw_insertRaw h _ value _

/-- The header names are lowercase already. -/
theorem toLowerFull_header : ∀ k ∈ headerFields, Text.toLowerFull k = k := by
  -- the names are spelled with lowercase ASCII letters and `-`, checked on their characters
  have hplain : ∀ k ∈ headerFields,
      (k.toList.all fun c => c.toNat < 0xC0 && (c.toNat < 0x41 || 0x5A < c.toNat)) = true := by
    simp only [headerFields, List.forall_mem_cons, List.not_mem_nil, IsEmpty.forall_iff, implies_true,
      and_true, txidHeader, spanIdHeader, parentSpanIdHeader, flagsHeader, parentAppHeader, hostHeader,
      sampledHeader, String.reduceToList]
    decide
  intro k hk
  exact Text.toLowerFull_of_plain (by simpa using hplain k hk)

theorem injectHeaders_get (next : TraceId) (app : String) (host : Option String) :
    (injectHeaders {} next app host).get sampledHeader = none ∧
    (injectHeaders {} next app host).get txidHeader = some next.transaction.display ∧
    (injectHeaders {} next app host).get spanIdHeader = some next.span.display ∧
    (injectHeaders {} next app host).get parentSpanIdHeader = some next.parent.display ∧
    (injectHeaders {} next app host).get flagsHeader = some (toString next.flags.toNat) ∧
    (injectHeaders {} next app host).get parentAppHeader = some app ∧
    (injectHeaders {} next app host).get hostHeader = host := by
  -- `get_set` compares the names in lowercase, which they are already; the names then differ as
  -- literals
  have hlower := toLowerFull_header
  simp only [headerFields, List.forall_mem_cons, List.not_mem_nil, IsEmpty.forall_iff, implies_true,
    and_true] at hlower
  obtain ⟨htx, hspan, hparent, hflags, happ, hhost, hsampled⟩ := hlower
  cases host <;>
    simp only [injectHeaders, get_set, htx, hspan, hparent, hflags, happ, hhost, hsampled, get_empty] <;>
    simp [txidHeader, spanIdHeader, parentSpanIdHeader, flagsHeader, parentAppHeader, hostHeader,
      sampledHeader]

end HeaderMap

/-! ## Reading the headers of a call -/

namespace SpanId

@[simp] theorem ofInt_toInt (s : SpanId) : ofInt s.toInt = s := by
  simp [ofInt, toInt]

/-- A printed span id, trimmed, reads back. -/
theorem readI64_display (s : SpanId) : Decimal.readI64 (Text.trimBlank s.display) = some s.toInt := by
  rw [display, Text.trimBlank_of_forall (Text.int_repr_not_blank _), Decimal.readI64]
  exact Decimal.readSigned_repr (by simpa [toInt] using Int64.le_toInt s.value)
    (by have := Int64.toInt_lt s.value; simp [toInt]; omega)

end SpanId

namespace RemoteTrace

theorem readHeader_of_get {α : Type} {h : HeaderMap} {name v : String} {read : String → Option α}
    {a : α} (hget : h.get name = some v) (hread : read (Text.trimBlank v) = some a) :
    readHeader h name read = .ok (some a) := by
  simp only [readHeader, hget, hread]

/-- The headers of a call read back as the callee's trace id, with the transaction id that its
trimmed text reads as. -/
theorem readTraceId_injectHeaders {next : TraceId} {tx : TransactionId} (app : String)
    (host : Option String) (htx : TransactionId.ofString? (Text.trimBlank next.transaction.display) = .ok tx) :
    readTraceId (injectHeaders {} next app host) next.transaction.display =
      .ok { next with transaction := tx } := by
  obtain ⟨-, -, hspan, hparent, hflags, -, -⟩ := HeaderMap.injectHeaders_get next app host
  have hflags' : Decimal.readU16 (Text.trimBlank (toString next.flags.toNat)) = some next.flags.toNat := by
    rw [Text.trimBlank_of_forall (by simpa [Nat.toList_repr] using Text.digits_not_blank next.flags.toNat)]
    exact Decimal.readUnsigned_repr (UInt16.toNat_lt next.flags)
  simp only [readTraceId, htx, readHeader_of_get hspan (SpanId.readI64_display _),
    readHeader_of_get hparent (SpanId.readI64_display _), readHeader_of_get hflags hflags',
    bind, Except.bind, pure, Except.pure, Option.getD_some, SpanId.ofInt_toInt, UInt16.ofNat_toNat]

/-- The headers of a call read back as a continuation of the callee's trace id, with the
transaction id that its trimmed text reads as. -/
theorem extract_injectHeaders_of_parse {next : TraceId} {tx : TransactionId} (app : String)
    (host : Option String) (htx : TransactionId.ofString? (Text.trimBlank next.transaction.display) = .ok tx) :
    (extract (injectHeaders {} next app host)).1 =
      .resume { next with transaction := tx } (some app) host := by
  obtain ⟨hsampled, htxid, -, -, -, happ, hhost⟩ := HeaderMap.injectHeaders_get next app host
  simp only [extract, hsampled, htxid, readTraceId_injectHeaders app host htx, happ, hhost,
    Option.any_none, Bool.false_eq_true, if_false]

/-- A carrier holding the not-sampled marker reads back as not sampled, whatever else it holds. -/
theorem extract_injectNotSampled (h : HeaderMap) : (extract (injectNotSampled h)).1 = .notSampled := by
  have hget : (injectNotSampled h).get sampledHeader = some "s0" := by
    rw [injectNotSampled, HeaderMap.get_set, if_pos rfl]
  simp only [extract, hget]
  rfl

end RemoteTrace

namespace TransactionId

/-- A printed transaction id whose agent id starts with a character that is not blank is its own
trimmed form: it ends with a digit. -/
theorem trimBlank_display (t : TransactionId) (h : Text.startsNonBlank t.agentId = true) :
    Text.trimBlank t.display = t.display := by
  obtain ⟨c, cs, hcs⟩ : ∃ c cs, t.agentId.toList = c :: cs := by
    unfold Text.startsNonBlank at h
    split at h
    · exact ⟨_, _, ‹_›⟩
    · exact absurd h Bool.false_ne_true
  have hc : Text.isBlankChar c = false := by
    simpa [Text.startsNonBlank, hcs] using h
  apply Text.trimBlank_of_ends
  · intro d hd
    rw [toList_display, hcs, List.cons_append, List.head?_cons, Option.some.injEq] at hd
    exact hd ▸ hc
  · intro d hd
    have hsplit : t.display.toList = (t.agentId.toList ++ transactionSeparator ::
        (Nat.toDigits 10 t.startTime.toNat ++ [transactionSeparator])) ++
          Nat.toDigits 10 t.sequence.toNat := by
      simp [toList_display]
    rw [hsplit, List.getLast?_append_of_ne_nil _ Nat.toDigits_ne_nil] at hd
    exact Text.digits_not_blank _ d (List.mem_of_getLast? hd)

end TransactionId

namespace RemoteTrace

/-- The headers of a call out of a trace whose agent id starts with a character that is not blank
read back as that call: the callee's trace id, the caller's application and the host. -/
theorem extract_injectHeaders (next : TraceId) (app : String) (host : Option String)
    (h : Text.startsNonBlank next.transaction.agentId = true) :
    (extract (injectHeaders {} next app host)).1 = .resume next (some app) host := by
  have hne : next.transaction.agentId ≠ "" := by
    rintro hempty
    simp [Text.startsNonBlank, hempty] at h
  simpa using extract_injectHeaders_of_parse app host
    (by rw [TransactionId.trimBlank_display _ h, TransactionId.ofString?_display _ hne])

end RemoteTrace

/-! ## A call out of a trace -/

namespace Agent

theorem traceId?_recording {w : World} {t : TraceRef} {sp : SpanRef}
    (hsp : (w.traces[t]?.getD default).span? = some sp) :
    (traceId? t).run w = .ok (some (w.spans[sp]?.getD default).traceId) w := by
  simp [traceId?, trace, span, hsp]

theorem traceId?_disabled {w : World} {t : TraceRef} (hsp : (w.traces[t]?.getD default).span? = none) :
    (traceId? t).run w = .ok none w := by
  simp [traceId?, trace, hsp]

theorem nextTraceId_run (w : World) (tid : TraceId) :
    (nextTraceId tid).run w = .ok (tid.child (w.rand.nextSpanId tid.span tid.parent).1)
      { w with rand := (w.rand.nextSpanId tid.span tid.parent).2 } := rfl

/-- A call out of a recording trace draws the callee's span id and writes its headers. -/
theorem injectWithHost_recording {w : World} {t : TraceRef} {tid : TraceId}
    (htid : (traceId? t).run w = .ok (some tid) w) (host : Option String) (h : HeaderMap) :
    (injectWithHost t host h).run w =
      .ok (some (tid.child (w.rand.nextSpanId tid.span tid.parent).1),
          injectHeaders h (tid.child (w.rand.nextSpanId tid.span tid.parent).1) w.settings.applicationName host)
        { w with rand := (w.rand.nextSpanId tid.span tid.parent).2 } := by
  rw [injectWithHost, run_bind_ok htid]
  simp only
  rw [run_bind_ok (nextTraceId_run w tid)]
  rfl

/-- A call out of a trace that does not record writes the not-sampled marker alone. -/
theorem injectWithHost_disabled {w : World} {t : TraceRef} (htid : (traceId? t).run w = .ok none w)
    (host : Option String) (h : HeaderMap) :
    (injectWithHost t host h).run w = .ok (none, injectNotSampled h) w := by
  rw [injectWithHost, run_bind_ok htid]
  rfl

/-- A call out of a trace, made into a fresh carrier, and the carrier read back on the other
side. A recording trace hands out the callee's trace id, in the same transaction and with the
same flags, its own span as the parent; when its agent id starts with a character that is not
blank, the carrier reads back as that trace id, the caller's application and the host. A trace
that does not record hands out nothing, and the carrier reads back as not sampled. -/
theorem injected_headers_continue (w : World) (t : TraceRef) (host : Option String)
    (hagent : ∀ tid, (traceId? t).run w = .ok (some tid) w →
      Text.startsNonBlank tid.transaction.agentId = true) :
    ∃ next? carrier w', (injectWithHost t host {}).run w = .ok (next?, carrier) w' ∧
      (next? = none ↔ (w.traces[t]?.getD default).canSample = false) ∧
      (∀ next, next? = some next →
        (∃ tid, (traceId? t).run w = .ok (some tid) w ∧ next.transaction = tid.transaction ∧
          next.parent = tid.span ∧ next.flags = tid.flags) ∧
        (RemoteTrace.extract carrier).1 = .resume next (some w.settings.applicationName) host) ∧
      (next? = none → (RemoteTrace.extract carrier).1 = .notSampled) := by
  cases hsp : (w.traces[t]?.getD default).span? with
  | none =>
    refine ⟨none, injectNotSampled {}, w,
      injectWithHost_disabled (traceId?_disabled hsp) host {}, ?_, ?_,
      fun _ => RemoteTrace.extract_injectNotSampled {}⟩
    · simp [TraceObj.canSample, hsp]
    · intro next hnext
      cases hnext
  | some sp =>
    have htid := traceId?_recording hsp
    refine ⟨_, _, _, injectWithHost_recording htid host {}, ?_, ?_, ?_⟩
    · simp [TraceObj.canSample, hsp]
    · intro next hnext
      cases hnext
      -- the callee's id is built from the drawn span id, which the proof never evaluates
      refine ⟨⟨_, htid, TraceId.child_transaction _ _, TraceId.child_parent _ _,
        TraceId.child_flags _ _⟩, RemoteTrace.extract_injectHeaders _ _ _ ?_⟩
      rw [TraceId.child_transaction]
      exact hagent _ htid
    · intro hnone
      cases hnone

/-- A world holding one recording trace, of agent `agent`, as its trace `0`. -/
theorem injected_headers_continue_recording :
    let w : World := { (default : World) with
      traces := #[{ kind := .recording 0 none { maxDepth := 64 } }]
      spans := #[{ traceId := ⟨⟨"agent", 1, 1⟩, ⟨7⟩, SpanId.none, 0⟩, maxEvents := 5000 }] }
    (∀ tid, (traceId? 0).run w = .ok (some tid) w →
        Text.startsNonBlank tid.transaction.agentId = true) ∧
      ∃ next? carrier w', (injectWithHost 0 (some "orders:8080") {}).run w = .ok (next?, carrier) w' ∧
        (next? = none ↔ (w.traces[0]?.getD default).canSample = false) ∧
        (∀ next, next? = some next →
          (∃ tid, (traceId? 0).run w = .ok (some tid) w ∧ next.transaction = tid.transaction ∧
            next.parent = tid.span ∧ next.flags = tid.flags) ∧
          (RemoteTrace.extract carrier).1 = .resume next (some w.settings.applicationName) (some "orders:8080")) ∧
        (next? = none → (RemoteTrace.extract carrier).1 = .notSampled) := by
  intro w
  have hagent : ∀ tid, (traceId? 0).run w = .ok (some tid) w →
      Text.startsNonBlank tid.transaction.agentId = true := by
    intro tid htid
    rw [traceId?_recording (show (w.traces[0]?.getD default).span? = some 0 from rfl)] at htid
    cases htid
    decide
  exact ⟨hagent, injected_headers_continue w 0 (some "orders:8080") hagent⟩

/-- The agent id ` agent` is accepted from the environment, but a call out of its transaction
reads back with the agent id `agent`: reading trims the transaction id. -/
theorem blank_led_agent_id_is_trimmed :
    (Config.ofEnv [("CALLTRACE_AGENT_ID", " agent")]).1.agentId = some " agent" ∧
      (RemoteTrace.extract (injectHeaders {} ⟨⟨" agent", 1, 1⟩, ⟨7⟩, ⟨1⟩, 0⟩ "app" none)).1 =
        .resume ⟨⟨"agent", 1, 1⟩, ⟨7⟩, ⟨1⟩, 0⟩ (some "app") none ∧
      (RemoteTrace.extract (injectHeaders {} ⟨⟨" agent", 1, 1⟩, ⟨7⟩, ⟨1⟩, 0⟩ "app" none)).1 ≠
        .resume ⟨⟨" agent", 1, 1⟩, ⟨7⟩, ⟨1⟩, 0⟩ (some "app") none := by
  have htrim : Text.trimBlank (TransactionId.display ⟨" agent", 1, 1⟩) =
      TransactionId.display ⟨"agent", 1, 1⟩ := by decide
  have hread : (RemoteTrace.extract (injectHeaders {} ⟨⟨" agent", 1, 1⟩, ⟨7⟩, ⟨1⟩, 0⟩ "app" none)).1 =
      .resume ⟨⟨"agent", 1, 1⟩, ⟨7⟩, ⟨1⟩, 0⟩ (some "app") none :=
    RemoteTrace.extract_injectHeaders_of_parse "app" none
      (by rw [htrim, TransactionId.ofString?_display _ (by decide)])
  refine ⟨by decide, hread, ?_⟩
  rw [hread]
  intro hsame
  injection hsame with hid
  exact absurd hid (by decide)

end Agent

end TraceAgent
