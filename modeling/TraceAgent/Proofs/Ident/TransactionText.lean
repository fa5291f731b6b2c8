import Mathlib
import TraceAgent.Proofs.Headers.RoundTrip

/-!
# The text form of transaction ids

A transaction id is read from a text `A^N^M`: the agent id `A`, not empty and free to hold `^`
itself, then the start time `N` and the sequence `M`, each an unsigned 64-bit number written as an
optional `+` and one or more ASCII digits. The numbers are split off from the right, so only the
last two `^` of a text separate fields, and an agent id comes back whole. Any other text is
refused with an error that quotes it.

Printing writes a number with no sign and no leading zero, so a text read as a transaction id
prints back as itself exactly when its two numbers are written that way.

Main statements:

* `Decimal.readUnsigned_eq_some_iff` — the grammar of unsigned numbers;
* `Nat.toDigits_ofDigitChars` — digits without a leading zero are the printed form of their value;
* `TransactionId.splitLastTwo_eq_some_iff` — a text cut at its last two separators;
* `TransactionId.transaction_text_grammar` — what reading accepts and returns, and how it undoes
  printing.
-/

namespace TraceAgent

/-! ## Digits -/

theorem Char.toNat_bounds_of_isDigit {c : Char} (h : c.isDigit = true) :
    48 ≤ c.toNat ∧ c.toNat ≤ 57 := by
  simpa [Char.isDigit, Char.le_def, UInt32.le_iff_toNat_le] using h

/-- A digit is the digit character of its value. -/
theorem Char.digitChar_of_isDigit {c : Char} (h : c.isDigit = true) :
    (c.toNat - 48).digitChar = c := by
  have hc := Char.toNat_bounds_of_isDigit h
  rw [← Char.toNat_inj, Nat.toNat_digitChar_of_lt_ten (by omega)]
  omega

namespace Nat

/-- Digits that start with a digit other than `0` have a positive value. -/
theorem ofDigitChars_pos {c : Char} {cs : List Char} (hc : c.isDigit = true) (h0 : c ≠ '0') :
    0 < Nat.ofDigitChars 10 (c :: cs) 0 := by
  have hbounds := Char.toNat_bounds_of_isDigit hc
  have hne : c.toNat ≠ 48 := fun h => h0 (Char.toNat_inj.1 (by rw [h]; rfl))
  rw [Nat.ofDigitChars_cons, Nat.ofDigitChars_eq_ofDigitChars_zero]
  have hpow : 0 < 10 ^ cs.length := Nat.pow_pos (by norm_num)
  have hdigit : 0 < c.toNat - '0'.toNat := by
    show 0 < c.toNat - 48
    omega
  calc 0 < 10 ^ cs.length * (10 * 0 + (c.toNat - '0'.toNat)) := by
        rw [Nat.mul_zero, Nat.zero_add]
        exact Nat.mul_pos hpow hdigit
    _ ≤ _ := Nat.le_add_right _ _

/-- Digits with no leading zero, but for `0` itself, are the printed form of their value. -/
theorem toDigits_ofDigitChars {ds : List Char} (hne : ds ≠ []) (hd : ∀ c ∈ ds, c.isDigit = true)
    (h0 : ds.head? = some '0' → ds = ['0']) : Nat.toDigits 10 (Nat.ofDigitChars 10 ds 0) = ds := by
  -- the last digit is split off, as printing writes it last
  induction ds using List.reverseRecOn with
  | nil => exact absurd rfl hne
  | append_singleton init c ih =>
    have hc : c.isDigit = true := hd c (by simp)
    have hlt : c.toNat - 48 < 10 := by have := Char.toNat_bounds_of_isDigit hc; omega
    have hval : Nat.ofDigitChars 10 (init ++ [c]) 0 =
        10 * Nat.ofDigitChars 10 init 0 + (c.toNat - 48) := by
      rw [Nat.ofDigitChars_append, Nat.ofDigitChars_cons, Nat.ofDigitChars_nil]
      rfl
    rw [hval]
    cases init with
    | nil =>
      rw [Nat.ofDigitChars_nil, Nat.mul_zero, Nat.zero_add, Nat.toDigits_of_lt_base hlt,
        Char.digitChar_of_isDigit hc]
      rfl
    | cons h rest =>
      -- a longer text does not start with `0`, so what comes before the last digit is positive
      have hh : h ≠ '0' := by
        rintro rfl
        have := h0 rfl
        simp at this
      have hinit : ∀ x ∈ h :: rest, x.isDigit = true := fun x hx => hd x (List.mem_append_left _ hx)
      have hpos : 0 < Nat.ofDigitChars 10 (h :: rest) 0 := ofDigitChars_pos (hinit h (by simp)) hh
      rw [← Nat.toDigits_append_toDigits (by norm_num) hpos hlt,
        ih (List.cons_ne_nil _ _) hinit (fun h' => absurd (by simpa using h') hh),
        Nat.toDigits_of_lt_base hlt, Char.digitChar_of_isDigit hc]

/-- The printed form of a positive number does not start with `0`. -/
theorem toDigits_head_ne_zero : ∀ {n : Nat}, 0 < n → (Nat.toDigits 10 n).head? ≠ some '0'
  | n, hpos => by
    by_cases hn : n < 10
    · rw [Nat.toDigits_of_lt_base hn]
      simpa using Nat.pos_iff_ne_zero.1 hpos
    · -- the leading digits are those of `n / 10`, which is positive
      rw [Nat.toDigits_of_base_le (by norm_num) (by omega)]
      have hdiv : 0 < n / 10 := Nat.div_pos (by omega) (by norm_num)
      have ih := toDigits_head_ne_zero hdiv
      obtain ⟨c, cs, hcs⟩ := List.exists_cons_of_ne_nil (Nat.toDigits_ne_nil (b := 10) (n := n / 10))
      rw [hcs] at ih ⊢
      simpa using ih
  decreasing_by omega

end Nat

/-! ## Unsigned numbers -/

namespace Decimal

/-- `s` writes `n` in decimal: an optional `+`, then one or more ASCII digits. -/
def Numeral (s : String) (n : Nat) : Prop :=
  ∃ ds : List Char, (s.toList = ds ∨ s.toList = '+' :: ds) ∧ ds ≠ [] ∧
    (∀ c ∈ ds, c.isDigit = true) ∧ Nat.ofDigitChars 10 ds 0 = n

/-- A number text as printing writes it: no sign, and no leading zero unless it is `0`. -/
def Unpadded (s : String) : Prop :=
  s.toList.head? ≠ some '+' ∧ (s.toList.head? = some '0' → s = "0")

theorem foldl_digitStep_none (cs : List Char) : cs.foldl digitStep none = none := by
  induction cs with
  | nil => rfl
  | cons c cs ih => exact ih

/-- Reading stops at the first character that is not a digit. -/
theorem isDigit_of_foldl_digitStep {cs : List Char} {acc : Option Nat} {n : Nat}
    (h : cs.foldl digitStep acc = some n) : ∀ c ∈ cs, c.isDigit = true := by
  induction cs generalizing acc with
  | nil => simp
  | cons c cs ih =>
    intro d hd
    rw [List.foldl_cons] at h
    have hstep : digitStep acc c ≠ none := by
      intro hnone
      rw [hnone, foldl_digitStep_none] at h
      cases h
    rcases List.mem_cons.1 hd with rfl | hd
    · by_contra hnd
      apply hstep
      cases acc <;> simp [digitStep, hnd]
    · exact ih h d hd

theorem readDigits_eq_some_iff {cs : List Char} {n : Nat} :
    readDigits cs = some n ↔ cs ≠ [] ∧ (∀ c ∈ cs, c.isDigit = true) ∧ Nat.ofDigitChars 10 cs 0 = n := by
  unfold readDigits digitsValue
  by_cases hcs : cs = []
  · simp [hcs]
  · rw [if_neg (by simpa using hcs)]
    constructor
    · intro h
      have hdig := isDigit_of_foldl_digitStep h
      rw [Decimal.foldl_digitStep hdig] at h
      exact ⟨hcs, hdig, Option.some.inj h⟩
    · rintro ⟨-, hdig, rfl⟩
      exact Decimal.foldl_digitStep hdig 0

theorem dropPlus_cases (cs : List Char) : cs = dropPlus cs ∨ cs = '+' :: dropPlus cs := by
  unfold dropPlus
  split
  · exact Or.inr rfl
  · exact Or.inl rfl

/-- The grammar of unsigned numbers below a bound. -/
theorem readUnsigned_eq_some_iff {bound n : Nat} {s : String} :
    readUnsigned bound s = some n ↔ Numeral s n ∧ n < bound := by
  unfold readUnsigned
  constructor
  · intro h
    split at h
    · next m hm =>
      split at h
      · cases h
        obtain ⟨hne, hdig, hval⟩ := readDigits_eq_some_iff.1 hm
        exact ⟨⟨_, dropPlus_cases _, hne, hdig, hval⟩, ‹_›⟩
      · cases h
    · cases h
  · rintro ⟨⟨ds, hs | hs, hne, hdig, rfl⟩, hlt⟩
    · -- no sign: the first digit is not `+`
      obtain ⟨c, cs, rfl⟩ := List.exists_cons_of_ne_nil hne
      have hc : c ≠ '+' := by
        rintro rfl
        exact absurd (hdig '+' (by simp)) (by decide)
      rw [hs, dropPlus_of_ne cs hc, (readDigits_eq_some_iff).2 ⟨hne, hdig, rfl⟩]
      exact if_pos hlt
    · rw [hs, dropPlus, (readDigits_eq_some_iff).2 ⟨hne, hdig, rfl⟩]
      exact if_pos hlt

theorem separator_not_mem_of_numeral {s : String} {n : Nat} (h : Numeral s n) :
    transactionSeparator ∉ s.toList := by
  obtain ⟨ds, hs, -, hdig, -⟩ := h
  have hsep : transactionSeparator.isDigit = false := by decide
  intro hmem
  rcases hs with hs | hs <;> rw [hs] at hmem
  · exact absurd (hdig _ hmem) (by rw [hsep]; decide)
  · rcases List.mem_cons.1 hmem with h | h
    · exact absurd h (by decide)
    · exact absurd (hdig _ h) (by rw [hsep]; decide)

/-- A number text is written as printing writes it exactly when it is the printed value. -/
theorem unpadded_iff {s : String} {n : Nat} (h : Numeral s n) : Unpadded s ↔ s = toString n := by
  obtain ⟨ds, hs, hne, hdig, rfl⟩ := h
  constructor
  · rintro ⟨hplus, hzero⟩
    have hds : s.toList = ds := by
      rcases hs with hs | hs
      · exact hs
      · exact absurd (by rw [hs]; rfl) hplus
    rw [← String.toList_inj, Nat.toString_eq_repr, Nat.toList_repr, hds,
      Nat.toDigits_ofDigitChars hne hdig fun h0 => ?_]
    rw [hzero (by rw [hds]; exact h0)] at hds
    exact hds.symm
  · rintro rfl
    unfold Unpadded
    rw [Nat.toString_eq_repr, Nat.toList_repr]
    obtain ⟨c, cs, hcs, hc, -⟩ := toDigits_eq_cons (Nat.ofDigitChars 10 ds 0)
    refine ⟨by rw [hcs]; simpa using hc, fun h0 => ?_⟩
    -- a printed number that starts with `0` is `0`
    by_cases hpos : 0 < Nat.ofDigitChars 10 ds 0
    · exact absurd h0 (Nat.toDigits_head_ne_zero hpos)
    · rw [Nat.eq_zero_of_not_pos hpos]
      rfl

end Decimal

/-! ## Transaction ids -/

namespace TransactionId

/-- `s` is the text `A^N^M` of the transaction id `t`, through the number texts `N` and `M`: `A` is
its agent id, which is not empty, and `N` and `M` write its start time and its sequence. -/
def Spells (s : String) (t : TransactionId) (N M : String) : Prop :=
  s = t.agentId ++ "^" ++ N ++ "^" ++ M ∧ t.agentId ≠ "" ∧
    Decimal.Numeral N t.startTime.toNat ∧ Decimal.Numeral M t.sequence.toNat

/-- The pieces a list is split into hold no separator. -/
theorem not_mem_of_mem_splitOn {xs l : List Char} {a : Char} (h : l ∈ xs.splitOn a) : a ∉ l := by
  induction xs generalizing l with
  | nil =>
    rw [List.splitOn_nil, List.mem_singleton] at h
    subst h
    simp
  | cons x xs ih =>
    rw [List.splitOn_cons_eq_if_modifyHead] at h
    split at h
    · rcases List.mem_cons.1 h with rfl | h
      · simp
      · exact ih h
    · next hx =>
      obtain ⟨l₀, ls, hls⟩ := List.exists_cons_of_ne_nil (List.splitOn_ne_nil a xs)
      rw [hls, List.modifyHead_cons] at h
      rcases List.mem_cons.1 h with rfl | h
      · have hl₀ := ih (l := l₀) (by rw [hls]; exact List.mem_cons_self)
        simp only [List.mem_cons, not_or]
        exact ⟨fun hax => hx (by simp [hax]), hl₀⟩
      · exact ih (by rw [hls]; exact List.mem_cons_of_mem _ h)

theorem toList_spelled (a b c : String) :
    (a ++ "^" ++ b ++ "^" ++ c).toList =
      a.toList ++ transactionSeparator :: (b.toList ++ transactionSeparator :: c.toList) := by
  simp [transactionSeparator]

/-- Splitting `a^b^c` splits `a`, then gives `b` and `c` when they hold no separator. -/
theorem splitOn_spelled (a : String) {b c : String} (hb : transactionSeparator ∉ b.toList)
    (hc : transactionSeparator ∉ c.toList) :
    (a ++ "^" ++ b ++ "^" ++ c).toList.splitOn transactionSeparator =
      a.toList.splitOn transactionSeparator ++ [b.toList, c.toList] := by
  have hsep : (transactionSeparator == transactionSeparator) = true := beq_self_eq_true _
  rw [toList_spelled, List.splitOn_append_cons_of_beq _ _ hsep,
    List.splitOn_append_cons_self_of_not_mem hb, List.splitOn_eq_singleton hc]

/-- A text cut at its last two separators: the two pieces after them hold none. -/
theorem splitLastTwo_eq_some_iff {s a b c : String} :
    splitLastTwo s = some (a, b, c) ↔
      s = a ++ "^" ++ b ++ "^" ++ c ∧ transactionSeparator ∉ b.toList ∧
        transactionSeparator ∉ c.toList := by
  constructor
  · intro h
    unfold splitLastTwo at h
    generalize hL : (s.toList.splitOn transactionSeparator).reverse = L at h
    rcases L with _ | ⟨sq, _ | ⟨st, _ | ⟨r, rs⟩⟩⟩
    · simp at h
    · simp at h
    · simp at h
    simp only [Option.some.injEq, Prod.mk.injEq] at h
    obtain ⟨rfl, rfl, rfl⟩ := h
    have hsplit : s.toList.splitOn transactionSeparator = (r :: rs).reverse ++ [st, sq] := by
      rw [← List.reverse_reverse (s.toList.splitOn transactionSeparator), hL]
      simp
    have hmem : ∀ l ∈ s.toList.splitOn transactionSeparator, transactionSeparator ∉ l :=
      fun _ hl => not_mem_of_mem_splitOn hl
    have hst : transactionSeparator ∉ st := hmem st (by rw [hsplit]; simp)
    have hsq : transactionSeparator ∉ sq := hmem sq (by rw [hsplit]; simp)
    refine ⟨?_, by simpa using hst, by simpa using hsq⟩
    -- both texts split into the same pieces, and a text is its pieces joined back
    have hagent : (String.ofList ([transactionSeparator].intercalate (r :: rs).reverse)).toList.splitOn
        transactionSeparator = (r :: rs).reverse := by
      rw [String.toList_ofList]
      exact List.splitOn_intercalate _
        (fun l hl => hmem l (by rw [hsplit]; exact List.mem_append_left _ hl))
        (by simp)
    have hjoin : ∀ l : List Char, [transactionSeparator].intercalate
        (l.splitOn transactionSeparator) = l := fun _ => List.intercalate_splitOn transactionSeparator
    rw [← String.toList_inj, ← hjoin s.toList, ← hjoin (_ ++ _ ++ _ ++ _ ++ _ : String).toList,
      splitOn_spelled _ (by simpa using hst) (by simpa using hsq), hagent, hsplit,
      String.toList_ofList, String.toList_ofList]
  · rintro ⟨rfl, hb, hc⟩
    obtain ⟨x, xs, hx⟩ := List.exists_cons_of_ne_nil
      (List.reverse_ne_nil_iff.2 (List.splitOn_ne_nil transactionSeparator a.toList))
    have hrev : ((a ++ "^" ++ b ++ "^" ++ c).toList.splitOn transactionSeparator).reverse =
        c.toList :: b.toList :: x :: xs := by
      rw [splitOn_spelled a hb hc, List.reverse_append, hx]
      rfl
    rw [splitLastTwo, hrev]
    simp only [← hx, List.reverse_reverse, List.intercalate_splitOn, String.ofList_toList]

theorem spelled_eq_iff {a b c b' c' : String} (hb : transactionSeparator ∉ b.toList)
    (hc : transactionSeparator ∉ c.toList) (hb' : transactionSeparator ∉ b'.toList)
    (hc' : transactionSeparator ∉ c'.toList) :
    a ++ "^" ++ b ++ "^" ++ c = a ++ "^" ++ b' ++ "^" ++ c' ↔ b = b' ∧ c = c' := by
  constructor
  · intro h
    have hsplit := splitLastTwo_eq_some_iff.2 ⟨h, hb', hc'⟩
    rw [splitLastTwo_eq_some_iff.2 ⟨rfl, hb, hc⟩] at hsplit
    cases hsplit
    exact ⟨rfl, rfl⟩
  · rintro ⟨rfl, rfl⟩
    rfl

theorem readU64_toNat {N : String} {x : UInt64} (h : Decimal.Numeral N x.toNat) :
    Decimal.readU64 N = some x.toNat :=
  Decimal.readUnsigned_eq_some_iff.2 ⟨h, UInt64.toNat_lt x⟩

theorem ofString?_eq_ok_iff {s : String} {t : TransactionId} :
    ofString? s = .ok t ↔ ∃ N M, Spells s t N M := by
  constructor
  · intro h
    unfold ofString? at h
    split at h
    · next a b c hsplit =>
      obtain ⟨hs, -, -⟩ := splitLastTwo_eq_some_iff.1 hsplit
      split at h
      · cases h
      · next hne =>
        split at h
        · next x y hx hy =>
          cases h
          obtain ⟨hxn, hxlt⟩ := Decimal.readUnsigned_eq_some_iff.1 hx
          obtain ⟨hyn, hylt⟩ := Decimal.readUnsigned_eq_some_iff.1 hy
          refine ⟨b, c, hs, by simpa using hne, ?_, ?_⟩
          · rwa [Nat.toUInt64_eq, UInt64.toNat_ofNat', Nat.mod_eq_of_lt hxlt]
          · rwa [Nat.toUInt64_eq, UInt64.toNat_ofNat', Nat.mod_eq_of_lt hylt]
        · cases h
    · cases h
  · rintro ⟨N, M, hs, hne, hN, hM⟩
    rw [ofString?, splitLastTwo_eq_some_iff.2 ⟨hs, Decimal.separator_not_mem_of_numeral hN,
      Decimal.separator_not_mem_of_numeral hM⟩]
    simp only [String.isEmpty_eq_false_iff.2 hne, Bool.false_eq_true, if_false, readU64_toNat hN,
      readU64_toNat hM, Nat.toUInt64_eq, UInt64.ofNat_toNat]

/-- Reading fails only with the error that quotes the text. -/
theorem ofString?_error {s : String} {e : TraceError} (h : ofString? s = .error e) :
    e = .invalidTransactionId s := by
  unfold ofString? at h
  split at h
  · split at h
    · cases h
      rfl
    · split at h
      · cases h
      · cases h
        rfl
  · cases h
    rfl

/-- A transaction id read from a text prints back as that text exactly when the text writes its
numbers as printing does. -/
theorem display_eq_iff {s : String} {t : TransactionId} {N M : String} (h : Spells s t N M) :
    t.display = s ↔ Decimal.Unpadded N ∧ Decimal.Unpadded M := by
  obtain ⟨rfl, -, hN, hM⟩ := h
  rw [Decimal.unpadded_iff hN, Decimal.unpadded_iff hM, display, eq_comm,
    spelled_eq_iff (Decimal.separator_not_mem_of_numeral hN) (Decimal.separator_not_mem_of_numeral hM)]
  -- the printed numbers hold no separator either
  · rw [Nat.toString_eq_repr, Nat.toList_repr]
    exact fun hmem => by simpa using digits_no_separator _ _ hmem
  · rw [Nat.toString_eq_repr, Nat.toList_repr]
    exact fun hmem => by simpa using digits_no_separator _ _ hmem

/-- The text form of transaction ids. Reading accepts exactly the texts `A^N^M` with an agent id
`A` that is not empty (it may hold `^`) and two unsigned 64-bit numbers `N` and `M`, each an
optional `+` and ASCII digits, and returns the transaction id they spell; every other text fails
with `invalidTransactionId` quoting it. So a printed transaction id with an agent id reads back,
and a text read back prints as itself exactly when its numbers have no `+` and no leading zero. -/
theorem transaction_text_grammar :
    (∀ (s : String) (t : TransactionId), ofString? s = .ok t ↔ ∃ N M, Spells s t N M) ∧
    (∀ (s : String) (e : TraceError), ofString? s = .error e ↔
      e = .invalidTransactionId s ∧ ∀ t N M, ¬ Spells s t N M) ∧
    (∀ t : TransactionId, t.agentId ≠ "" → ofString? t.display = .ok t) ∧
    (∀ (s : String) (t : TransactionId) (N M : String), Spells s t N M →
      (t.display = s ↔ Decimal.Unpadded N ∧ Decimal.Unpadded M)) := by
  refine ⟨fun _ _ => ofString?_eq_ok_iff, fun s e => ⟨fun h => ⟨ofString?_error h, ?_⟩, ?_⟩,
    ofString?_display, fun _ _ _ _ => display_eq_iff⟩
  · intro t N M hs
    rw [ofString?_eq_ok_iff.2 ⟨N, M, hs⟩] at h
    cases h
  · rintro ⟨rfl, hnone⟩
    cases hread : ofString? s with
    | ok t =>
      obtain ⟨N, M, hs⟩ := ofString?_eq_ok_iff.1 hread
      exact absurd hs (hnone t N M)
    | error e => rw [ofString?_error hread]

end TransactionId

end TraceAgent
