/-! The code points of a text, unpaired surrogates among them, which a `String` cannot hold: the
characters U+10F800 to U+10FFFF stand for the surrogates (`ofPoints`), and `points` reads the code
points back. -/

namespace PortableSearch.Text

def isSurrogate (n : Nat) : Bool := 0xD800 ≤ n && n < 0xE000

/-- The distance from a surrogate to the character that stands for it, U+10F800 less U+D800. -/
def loneShift : Nat := 0x102000

def loneChar (u : Nat) : Char := Char.ofNat (u + loneShift)

def loneUnit? (c : Char) : Option Nat :=
  if 0x10F800 ≤ c.toNat then some (c.toNat - loneShift) else none

def escapeStart : Nat := 0x10F7FF

def escapeMark : Char := Char.ofNat escapeStart

/-- The characters that hold a code point. -/
def charsOfPoint (n : Nat) : List Char :=
  if isSurrogate n then [loneChar n]
  else if escapeStart ≤ n then [escapeMark, Char.ofNat (n - 0x800)]
  else [Char.ofNat n]

/-- The character a code point is seen as where only its kind matters, as in the syntax of JSON:
a surrogate is seen as the character standing for it. -/
def charOfPoint (n : Nat) : Char := if isSurrogate n then loneChar n else Char.ofNat n

def pointOfChar (c : Char) : Nat := (loneUnit? c).getD c.toNat

def pointsOfChars : List Char → List Nat
  | [] => []
  | [c] => [pointOfChar c]
  | c :: d :: rest =>
    if c = escapeMark ∧ escapeStart - 0x800 ≤ d.toNat ∧ d.toNat ≤ escapeStart then
      (d.toNat + 0x800) :: pointsOfChars rest
    else pointOfChar c :: pointsOfChars (d :: rest)

def points (s : String) : List Nat := pointsOfChars s.toList

def headPoint (cs : List Char) : Nat := (pointsOfChars cs).headD 0

/-- The text of code points below 0x110000. -/
def ofPoints (ps : List Nat) : String := String.ofList (ps.flatMap charsOfPoint)

/-- Whether the code points `a` come no later than `b`: at the first place they differ `a` has
the lower point, or `a` is a prefix of `b`. -/
def pointsLE : List Nat → List Nat → Bool
  | [], _ => true
  | _ :: _, [] => false
  | a :: as, b :: bs => a < b || (a == b && pointsLE as bs)

/-! ## Reading the code points back -/

theorem toNat_ofNat_of_valid {n : Nat} (h : n.isValidChar) : (Char.ofNat n).toNat = n := by
  rw [Char.ofNat, dif_pos h]
  rfl

theorem toNat_lt (c : Char) : c.toNat < 0x110000 := by
  have valid := c.valid
  simp only [UInt32.isValidChar, Nat.isValidChar] at valid
  simp only [Char.toNat]
  omega

theorem isSurrogate_iff {n : Nat} : isSurrogate n = true ↔ 0xD800 ≤ n ∧ n < 0xE000 := by
  simp [isSurrogate]

theorem loneChar_toNat {u : Nat} (h : isSurrogate u) : (loneChar u).toNat = u + loneShift := by
  have hu := isSurrogate_iff.mp h
  apply toNat_ofNat_of_valid
  unfold Nat.isValidChar loneShift
  omega

theorem loneUnit?_loneChar {u : Nat} (h : isSurrogate u) : loneUnit? (loneChar u) = some u := by
  have hu := isSurrogate_iff.mp h
  unfold loneUnit?
  rw [loneChar_toNat h, if_pos (by unfold loneShift; omega), Nat.add_sub_cancel]

theorem escapeMark_toNat : escapeMark.toNat = escapeStart :=
  toNat_ofNat_of_valid (by decide)

theorem pointsOfChars_cons_of_ne {c : Char} (plain : c ≠ escapeMark) (cs : List Char) :
    pointsOfChars (c :: cs) = pointOfChar c :: pointsOfChars cs := by
  cases cs with
  | nil => rfl
  | cons d rest => simp [pointsOfChars, plain]

/-- The characters of a code point below 0x110000 are read back as it, whatever follows them. -/
theorem pointsOfChars_charsOfPoint {n : Nat} (valid : n < 0x110000) (cs : List Char) :
    pointsOfChars (charsOfPoint n ++ cs) = n :: pointsOfChars cs := by
  by_cases lone : isSurrogate n
  case pos =>
    have hn := isSurrogate_iff.mp lone
    have plain : loneChar n ≠ escapeMark := by
      intro same
      have := congrArg Char.toNat same
      rw [loneChar_toNat lone, escapeMark_toNat] at this
      simp only [loneShift, escapeStart] at this
      omega
    simp [charsOfPoint, lone, pointsOfChars_cons_of_ne plain, pointOfChar, loneUnit?_loneChar lone]
  case neg =>
    have hn : ¬ (0xD800 ≤ n ∧ n < 0xE000) := fun within => lone (isSurrogate_iff.mpr within)
    by_cases escaped : escapeStart ≤ n
    case pos =>
      have low : (Char.ofNat (n - 0x800)).toNat = n - 0x800 := by
        apply toNat_ofNat_of_valid
        unfold Nat.isValidChar
        unfold escapeStart at escaped
        omega
      have read : escapeStart - 0x800 ≤ n - 0x800 ∧ n - 0x800 ≤ escapeStart := by
        unfold escapeStart at escaped ⊢
        omega
      simp only [charsOfPoint, lone, Bool.false_eq_true, if_false, if_pos escaped,
        List.cons_append, List.nil_append, pointsOfChars, low, read, and_self, if_true]
      rw [Nat.sub_add_cancel (by unfold escapeStart at escaped; omega)]
    case neg =>
      have same : (Char.ofNat n).toNat = n := by
        apply toNat_ofNat_of_valid
        unfold Nat.isValidChar
        omega
      have plain : Char.ofNat n ≠ escapeMark := by
        intro mark
        have := congrArg Char.toNat mark
        rw [same, escapeMark_toNat] at this
        exact escaped (Nat.le_of_eq this.symm)
      have below : ¬ 0x10F800 ≤ n := by
        unfold escapeStart at escaped
        omega
      simp [charsOfPoint, lone, escaped, pointsOfChars_cons_of_ne plain, pointOfChar, loneUnit?,
        same, below]

theorem points_ofPoints {ps : List Nat} (valid : ∀ p ∈ ps, p < 0x110000) :
    points (ofPoints ps) = ps := by
  unfold points ofPoints
  rw [String.toList_ofList]
  induction ps with
  | nil => rfl
  | cons p rest ih =>
    rw [List.flatMap_cons, pointsOfChars_charsOfPoint (valid p List.mem_cons_self),
      ih fun q mem => valid q (List.mem_cons_of_mem p mem)]

/-- Two texts of code points below 0x110000 are the same string exactly when their code points
are the same. -/
theorem ofPoints_inj {ps qs : List Nat} (validP : ∀ p ∈ ps, p < 0x110000)
    (validQ : ∀ q ∈ qs, q < 0x110000) : ofPoints ps = ofPoints qs ↔ ps = qs := by
  constructor
  · intro same
    rw [← points_ofPoints validP, ← points_ofPoints validQ, same]
  · rintro rfl
    rfl

theorem pointOfChar_lt (c : Char) : pointOfChar c < 0x110000 := by
  have below := toNat_lt c
  unfold pointOfChar loneUnit?
  split
  case isTrue =>
    rw [Option.getD_some]
    exact Nat.lt_of_le_of_lt (Nat.sub_le _ _) below
  case isFalse => exact below

theorem lt_of_mem_pointsOfChars : ∀ {cs : List Char} {p : Nat}, p ∈ pointsOfChars cs → p < 0x110000
  | [], _, mem => by simp [pointsOfChars] at mem
  | [c], p, mem => by
    simp only [pointsOfChars, List.mem_singleton] at mem
    exact mem ▸ pointOfChar_lt c
  | c :: d :: rest, p, mem => by
    unfold pointsOfChars at mem
    split at mem
    case isTrue read =>
      rcases List.mem_cons.mp mem with rfl | later
      · unfold escapeStart at read
        omega
      · exact lt_of_mem_pointsOfChars later
    case isFalse =>
      rcases List.mem_cons.mp mem with rfl | later
      · exact pointOfChar_lt c
      · exact lt_of_mem_pointsOfChars later

theorem lt_of_mem_points {s : String} {p : Nat} (mem : p ∈ points s) : p < 0x110000 :=
  lt_of_mem_pointsOfChars mem

example : points (ofPoints [0x61, 0xD800, 0x10F800, 0x10FFFF]) = [0x61, 0xD800, 0x10F800, 0x10FFFF] := by
  decide

/-! ## The order of code points -/

theorem pointsLE_total : ∀ a b : List Nat, pointsLE a b || pointsLE b a
  | [], _ => by simp [pointsLE]
  | _ :: _, [] => by simp [pointsLE]
  | a :: as, b :: bs => by
    have rest := pointsLE_total as bs
    simp only [pointsLE, Bool.or_eq_true, Bool.and_eq_true, beq_iff_eq, decide_eq_true_eq] at rest ⊢
    rcases Nat.lt_trichotomy a b with lower | rfl | higher
    · exact .inl (.inl lower)
    · rcases rest with le | ge
      · exact .inl (.inr ⟨rfl, le⟩)
      · exact .inr (.inr ⟨rfl, ge⟩)
    · exact .inr (.inl higher)

theorem pointsLE_trans : ∀ {a b c : List Nat}, pointsLE a b → pointsLE b c → pointsLE a c
  | [], _, _, _, _ => rfl
  | _ :: _, [], _, ab, _ => by simp [pointsLE] at ab
  | _ :: _, _ :: _, [], _, bc => by simp [pointsLE] at bc
  | a :: as, b :: bs, c :: cs, ab, bc => by
    simp only [pointsLE, Bool.or_eq_true, Bool.and_eq_true, beq_iff_eq, decide_eq_true_eq] at ab bc ⊢
    rcases ab with lower | ⟨rfl, restAB⟩
    · rcases bc with lower' | ⟨rfl, -⟩ <;> omega
    · rcases bc with lower' | ⟨rfl, restBC⟩
      · omega
      · exact .inr ⟨rfl, pointsLE_trans restAB restBC⟩

/-- Code points that come no later than others and differ from them come strictly before them in
the lexicographic order. -/
theorem lex_of_pointsLE : ∀ {a b : List Nat}, pointsLE a b → a ≠ b → List.Lex (· < ·) a b
  | [], [], _, differ => absurd rfl differ
  | [], _ :: _, _, _ => .nil
  | _ :: _, [], le, _ => by simp [pointsLE] at le
  | a :: as, b :: bs, le, differ => by
    simp only [pointsLE, Bool.or_eq_true, Bool.and_eq_true, beq_iff_eq, decide_eq_true_eq] at le
    rcases le with lower | ⟨rfl, rest⟩
    · exact .rel lower
    · exact .cons (lex_of_pointsLE rest fun same => differ (by rw [same]))

end PortableSearch.Text
