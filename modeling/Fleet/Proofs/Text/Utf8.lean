import Fleet.Proofs.Text.Lines
import Fleet.Text.Utf8

namespace Fleet.Text

/-! # Reading bytes line by line

A line feed stands for itself, whatever a reader has begun before it: it cannot go on with a
character of several bytes, and no such character is a line feed (`Unfinished.IsWide`).  So a reader
that meets one is, apart from what it has read, where it was at the start, and bytes that are read
line by line give the same text as bytes that are read in one go (`splitOn_decodeLossy`).
-/

/-! ## One byte -/

/-- What is known of a character in progress: no byte below 0x80 goes on with it, and its number
will be greater than that of a line feed. -/
structure Unfinished.IsWide (u : Unfinished) : Prop where
  low : 0x80 ≤ u.low
  number : 10 < u.value * 64 + (u.low.toNat - 0x80)

theorem Unfinished.isWide_of_pos {missing value : Nat} {high : UInt8} (h : 0 < value) :
    IsWide ⟨missing, value, 0x80, high⟩ :=
  ⟨by simp, by simp; omega⟩

namespace Reader

/-- A reader as it is between two bytes. -/
def IsSound (r : Reader) : Prop := ∀ u ∈ r.unfinished, u.IsWide

/-- What is made of a byte where some characters have been read. -/
inductive Takes (b : UInt8) (read : List Char) : Reader → Prop where
  | itself (h : b < 0x80) : Takes b read ⟨Char.ofNat b.toNat :: read, none⟩
  | replaced : Takes b read ⟨replacement :: read, none⟩
  | goesOn (u : Unfinished) (h : u.IsWide) : Takes b read ⟨read, some u⟩
  | completed (number : Nat) (h : 10 < number) : Takes b read ⟨Char.ofNat number :: read, none⟩

variable {r : Reader} {b : UInt8}

theorem takes_begin (read : List Char) (unfinished : Option Unfinished) (b : UInt8) :
    Takes b read (begin ⟨read, unfinished⟩ b) := by
  -- a first byte from `low` on leaves a number that is not 0
  have hpos : ∀ {first : Nat} {low : UInt8} {p : Bool}, first < low.toNat →
      (decide (low ≤ b) && p) = true → 0 < b.toNat - first := by
    intro first low p hlt h
    have hle := UInt8.le_iff_toNat_le.1 (of_decide_eq_true (Bool.and_eq_true_iff.1 h).1)
    omega
  unfold begin
  split
  · next h => exact .itself h
  split
  · next h => exact .goesOn _ (Unfinished.isWide_of_pos (hpos (by decide) h))
  split
  · exact .goesOn _ ⟨by decide, by decide⟩
  split
  · exact .goesOn _ ⟨by decide, by decide⟩
  split
  · next h => exact .goesOn _ (Unfinished.isWide_of_pos (hpos (by decide) h))
  split
  · exact .goesOn _ ⟨by decide, by decide⟩
  split
  · exact .goesOn _ ⟨by decide, by decide⟩
  split
  · next h => exact .goesOn _ (Unfinished.isWide_of_pos (hpos (by decide) h))
  · exact .replaced

/-- A byte is taken as it comes, or a character in progress is given up before. -/
theorem IsSound.takes (h : r.IsSound) (b : UInt8) :
    Takes b r.read (r.next b) ∨ Takes b (replacement :: r.read) (r.next b) := by
  unfold next
  split
  · exact .inl (takes_begin r.read r.unfinished b)
  next u hu =>
  obtain ⟨hlow, hnumber⟩ := h u hu
  split
  · next hgoes =>
    -- the number is no smaller than with the least byte that could have come
    have hb := UInt8.le_iff_toNat_le.1 (of_decide_eq_true (Bool.and_eq_true_iff.1 hgoes).1)
    have hgrown : 10 < u.value * 64 + (b.toNat - 0x80) := by omega
    left
    dsimp only
    split
    · exact .completed _ hgrown
    · exact .goesOn _ (Unfinished.isWide_of_pos (by omega))
  · exact .inr (takes_begin _ none b)

theorem IsSound.next (h : r.IsSound) (b : UInt8) : (r.next b).IsSound := by
  have hsound : ∀ {read r'}, Takes b read r' → r'.IsSound := by
    intro read r' htakes u hu
    cases htakes with
    | itself _ | replaced | completed _ _ => cases hu
    | goesOn u' hwide =>
      obtain rfl := Option.some.inj hu
      exact hwide
  rcases h.takes b with htakes | htakes
  · exact hsound htakes
  · exact hsound htakes

theorem isSound_foldl (bytes : List UInt8) : (bytes.foldl Reader.next {}).IsSound := by
  induction bytes using List.reverseRecOn with
  | nil => exact fun u hu => nomatch hu
  | append_singleton bytes b ih =>
    rw [List.foldl_append]
    exact ih.next b

theorem ofNat_ne_lineFeed {n : Nat} (h : n ≠ 10) : Char.ofNat n ≠ '\n' := by
  intro heq
  have hnumber : (Char.ofNat n).toNat = 10 := congrArg Char.toNat heq
  by_cases hvalid : n.isValidChar
  · have hn : (Char.ofNat n).toNat = n := congrArg Char.toNat (dif_pos hvalid)
    exact h (hn.symm.trans hnumber)
  · have hzero : (Char.ofNat n).toNat = 0 := congrArg Char.toNat (dif_neg hvalid)
    exact absurd (hzero.symm.trans hnumber) (by decide)

/-- No other byte is read as a line feed. -/
theorem IsSound.notMem_next (h : r.IsSound) (hb : b ≠ 10) (hread : '\n' ∉ r.read) :
    '\n' ∉ (r.next b).read := by
  have hnot : ∀ {read r'}, Takes b read r' → '\n' ∉ read → '\n' ∉ r'.read := by
    intro read r' htakes hread
    cases htakes with
    | itself _ =>
      have hnumber : b.toNat ≠ 10 := fun heq => hb (UInt8.toNat_inj.1 heq)
      simp [hread, (ofNat_ne_lineFeed hnumber).symm]
    | replaced => simp [hread, replacement]
    | goesOn _ _ => exact hread
    | completed number hnumber =>
      simp [hread, (ofNat_ne_lineFeed (Nat.ne_of_gt hnumber)).symm]
  rcases h.takes b with htakes | htakes
  · exact hnot htakes hread
  · exact hnot htakes (by simp [hread, replacement])

/-- Something has been read behind a byte. -/
theorem IsSound.finish_next_ne_nil (h : r.IsSound) (b : UInt8) : (r.next b).finish ≠ [] := by
  have hne : ∀ {read r'}, Takes b read r' → r'.finish ≠ [] := by
    intro read r' htakes
    cases htakes <;> simp [finish]
  rcases h.takes b with htakes | htakes
  · exact hne htakes
  · exact hne htakes

/-! ### A line feed -/

/-- A line feed ends whatever was in progress. -/
theorem IsSound.next_lineFeed (h : r.IsSound) :
    r.next 10 = ⟨'\n' :: r.finish.reverse, none⟩ := by
  unfold Reader.next finish
  split
  · rw [List.reverse_reverse]
    rfl
  next u hu =>
  have hlow : ¬u.low ≤ 10 := fun hle => absurd (UInt8.le_trans (h u hu).low hle) (by decide)
  rw [if_neg (by simp [hlow]), List.reverse_reverse]
  rfl

/-- A reader that has read some characters before all others. -/
def behind (r : Reader) (front : List Char) : Reader := ⟨r.read ++ front, r.unfinished⟩

theorem begin_behind (r : Reader) (front : List Char) (b : UInt8) :
    (r.behind front).begin b = (r.begin b).behind front := by
  unfold begin
  repeat' split
  all_goals rfl

/-- What has been read before makes no difference to what is made of a byte. -/
theorem next_behind (r : Reader) (front : List Char) (b : UInt8) :
    (r.behind front).next b = (r.next b).behind front := by
  unfold Reader.next
  have hsame : (r.behind front).unfinished = r.unfinished := rfl
  rw [hsame]
  split
  · exact begin_behind r front b
  · split
    · dsimp only
      split <;> rfl
    · exact begin_behind { read := replacement :: r.read } front b

theorem foldl_behind (r : Reader) (front : List Char) (bytes : List UInt8) :
    bytes.foldl Reader.next (r.behind front) = (bytes.foldl Reader.next r).behind front := by
  induction bytes generalizing r with
  | nil => rfl
  | cons b rest ih => rw [List.foldl_cons, next_behind, ih, List.foldl_cons]

theorem finish_behind (r : Reader) (front : List Char) :
    (r.behind front).finish = front.reverse ++ r.finish := by
  have hsame : (r.behind front).unfinished = r.unfinished := rfl
  unfold finish
  rw [hsame]
  split
  · exact List.reverse_append
  · simp [behind]

end Reader

/-! ## All bytes -/

/-- Bytes on both sides of a line feed are read on their own. -/
theorem decodeLossy_append_lineFeed (a b : List UInt8) :
    decodeLossy (a ++ 10 :: b) = decodeLossy a ++ '\n' :: decodeLossy b := by
  have hfed := (Reader.isSound_foldl a).next_lineFeed
  have hstart : (⟨'\n' :: (decodeLossy a).reverse, none⟩ : Reader) =
      Reader.behind {} ('\n' :: (decodeLossy a).reverse) := rfl
  rw [decodeLossy, List.foldl_append, List.foldl_cons, hfed, ← decodeLossy, hstart,
    Reader.foldl_behind, Reader.finish_behind, ← decodeLossy]
  simp

/-- A line feed is read only where there is one. -/
theorem notMem_decodeLossy {bytes : List UInt8} (h : 10 ∉ bytes) : '\n' ∉ decodeLossy bytes := by
  have hread : '\n' ∉ (bytes.foldl Reader.next {}).read := by
    induction bytes using List.reverseRecOn with
    | nil => simp
    | append_singleton bytes b ih =>
      simp only [List.mem_append, List.mem_singleton, not_or] at h
      rw [List.foldl_append]
      exact (Reader.isSound_foldl bytes).notMem_next (Ne.symm h.2) (ih h.1)
  rw [decodeLossy, Reader.finish]
  split
  · simpa using hread
  · simpa [replacement] using hread

/-- There is text wherever there are bytes. -/
theorem decodeLossy_eq_nil_iff {bytes : List UInt8} : decodeLossy bytes = [] ↔ bytes = [] := by
  constructor
  · intro h
    rcases List.eq_nil_or_concat bytes with hnil | ⟨front, b, rfl⟩
    · exact hnil
    · rw [List.concat_eq_append, decodeLossy, List.foldl_append] at h
      exact absurd h ((Reader.isSound_foldl front).finish_next_ne_nil b)
  · rintro rfl
    rfl

theorem decodeLossy_joinWith (pieces : List (List UInt8)) :
    decodeLossy (joinWith 10 pieces) = joinWith '\n' (pieces.map decodeLossy) := by
  induction pieces with
  | nil => rfl
  | cons piece rest ih =>
    cases rest with
    | nil => rfl
    | cons next rest =>
      rw [joinWith, decodeLossy_append_lineFeed, ih]
      · rfl
      · simp

/-- Reading line by line and reading in one go give the same pieces of text. -/
theorem splitOn_decodeLossy (bytes : List UInt8) :
    splitOn '\n' (decodeLossy bytes) = (splitOn 10 bytes).map decodeLossy := by
  have hne : (splitOn 10 bytes).map decodeLossy ≠ [] := by simp [splitOn_ne_nil]
  have hpieces : ∀ piece ∈ (splitOn 10 bytes).map decodeLossy, '\n' ∉ piece := by
    simp only [List.forall_mem_map]
    exact fun piece hpiece => notMem_decodeLossy (notMem_of_mem_splitOn 10 bytes piece hpiece)
  conv_lhs => rw [← joinWith_splitOn 10 bytes]
  rw [decodeLossy_joinWith, splitOn_joinWith hne hpieces]

end Fleet.Text
