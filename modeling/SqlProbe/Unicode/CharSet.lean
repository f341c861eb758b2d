import SqlProbe.Unicode.Runs

/-!
# Sets of characters

A set of characters is kept as the ascending list of the code points at which
membership changes: the letters from `a` to `f` are `[0x61, 0x67]`, and all but
them are `[0, 0x61, 0x67, 0x110000]`. A set has one such list only, so two sets
are equal when their lists are, and every operation on two sets is one merge of
their lists.

* `CharSet.contains`: membership.
* `CharSet.combine`: the set of the code points whose memberships in two sets
  answer to a rule; `union`, `inter`, `diff` and `symmDiff` are its instances.
* `CharSet.intervals`: the intervals of a set, in ascending order.
* `CharSet.ofText`: the set that a table of runs describes.
* `contains_combine`: membership in a combination is the rule applied to the
  memberships.
-/

namespace SqlProbe

namespace CharSet

/-! ### Lists of changes -/

/-- Whether a code point is inside when one starts at `inside` and crosses the
border at each of the given places. -/
def crossed (inside : Bool) : List Nat → Nat → Bool
  | [], _ => inside
  | a :: rest, n => if n < a then inside else crossed (!inside) rest n

/-- A place in front of others, unless nothing changes there. -/
def mark (old new : Bool) (place : Nat) (rest : List Nat) : List Nat :=
  if old = new then rest else place :: rest

/-- The places at which `f` of two memberships changes, given the memberships
before the first place of either list. -/
def merge (f : Bool → Bool → Bool) (p q : Bool) : List Nat → List Nat → List Nat
  | [], bs => if f p q = f p (!q) then [] else bs
  | a :: as, [] => if f p q = f (!p) q then [] else a :: as
  | a :: as, b :: bs =>
    if a < b then mark (f p q) (f (!p) q) a (merge f (!p) q as (b :: bs))
    else if b < a then mark (f p q) (f p (!q)) b (merge f p (!q) (a :: as) bs)
    else mark (f p q) (f (!p) (!q)) a (merge f (!p) (!q) as bs)
termination_by as bs => as.length + bs.length

theorem crossed_of_lt {n : Nat} {l : List Nat} (h : ∀ x ∈ l, n < x) (inside : Bool) :
    crossed inside l n = inside := by
  cases l with
  | nil => rfl
  | cons a l => simp [crossed, h a (by simp)]

theorem mem_mark {old new : Bool} {place x : Nat} {rest : List Nat}
    (h : x ∈ mark old new place rest) : x = place ∨ x ∈ rest := by
  unfold mark at h
  split at h
  · exact .inr h
  · simpa using h

theorem mem_merge {f : Bool → Bool → Bool} {p q : Bool} {as bs : List Nat} {x : Nat}
    (h : x ∈ merge f p q as bs) : x ∈ as ∨ x ∈ bs := by
  fun_induction merge f p q as bs with
  | case1 => simp at h
  | case2 => exact .inr h
  | case3 => simp at h
  | case4 => exact .inl h
  | case5 p q a as b bs hab ih =>
    rcases mem_mark h with rfl | h
    · simp
    · rcases ih h with h | h <;> simp_all
  | case6 p q a as b bs hab hba ih =>
    rcases mem_mark h with rfl | h
    · simp
    · rcases ih h with h | h <;> simp_all
  | case7 p q a as b bs hab hba ih =>
    rcases mem_mark h with rfl | h
    · simp
    · rcases ih h with h | h <;> simp [h]

theorem pairwise_mark {old new : Bool} {place : Nat} {rest : List Nat}
    (h : ∀ x ∈ rest, place < x) (hr : rest.Pairwise (· < ·)) :
    (mark old new place rest).Pairwise (· < ·) := by
  unfold mark
  split
  · exact hr
  · exact List.pairwise_cons.2 ⟨h, hr⟩

theorem pairwise_merge {f : Bool → Bool → Bool} {p q : Bool} {as bs : List Nat}
    (ha : as.Pairwise (· < ·)) (hb : bs.Pairwise (· < ·)) :
    (merge f p q as bs).Pairwise (· < ·) := by
  fun_induction merge f p q as bs with
  | case1 => exact .nil
  | case2 => exact hb
  | case3 => exact .nil
  | case4 => exact ha
  | case5 p q a as b bs hab ih =>
    have ha' := List.pairwise_cons.1 ha
    have hb' := List.pairwise_cons.1 hb
    refine pairwise_mark (fun x hx => ?_) (ih ha'.2 hb)
    rcases mem_merge hx with h | h
    · exact ha'.1 x h
    · rcases List.mem_cons.1 h with rfl | h
      · exact hab
      · exact Nat.lt_trans hab (hb'.1 x h)
  | case6 p q a as b bs hab hba ih =>
    have ha' := List.pairwise_cons.1 ha
    have hb' := List.pairwise_cons.1 hb
    refine pairwise_mark (fun x hx => ?_) (ih ha hb'.2)
    rcases mem_merge hx with h | h
    · rcases List.mem_cons.1 h with rfl | h
      · exact hba
      · exact Nat.lt_trans hba (ha'.1 x h)
    · exact hb'.1 x h
  | case7 p q a as b bs hab hba ih =>
    have ha' := List.pairwise_cons.1 ha
    have hb' := List.pairwise_cons.1 hb
    refine pairwise_mark (fun x hx => ?_) (ih ha'.2 hb'.2)
    rcases mem_merge hx with h | h
    · exact ha'.1 x h
    · have := hb'.1 x h
      omega

theorem pairwise_ends {first stop : Nat} (h : first < stop) :
    [first, stop].Pairwise (· < ·) :=
  List.pairwise_cons.2 ⟨fun _ hx => List.mem_singleton.1 hx ▸ h, List.pairwise_singleton _ _⟩

theorem crossed_mark {old new : Bool} {place n : Nat} {rest : List Nat}
    (h : ∀ x ∈ rest, place < x) :
    crossed old (mark old new place rest) n = if n < place then old else crossed new rest n := by
  unfold mark
  split
  case isTrue heq =>
    subst heq
    split
    · exact crossed_of_lt (fun x hx => Nat.lt_trans ‹_› (h x hx)) _
    · rfl
  case isFalse hne =>
    have : new = !old := by cases old <;> cases new <;> simp_all
    simp [crossed, this]

theorem crossed_merge {f : Bool → Bool → Bool} {p q : Bool} {as bs : List Nat}
    (ha : as.Pairwise (· < ·)) (hb : bs.Pairwise (· < ·)) (n : Nat) :
    crossed (f p q) (merge f p q as bs) n = f (crossed p as n) (crossed q bs n) := by
  have constant : ∀ (g : Bool → Bool) (r : Bool) (l : List Nat), g r = g (!r) →
      g (crossed r l n) = g r := by
    intro g r l h
    cases crossed r l n <;> cases r <;> simp_all
  have moving : ∀ (g : Bool → Bool) (l : List Nat) (r : Bool), g r ≠ g (!r) →
      crossed (g r) l n = g (crossed r l n) := by
    intro g l
    induction l with
    | nil => intro r _; rfl
    | cons a l ih =>
      intro r h
      have hr : (!g r) = g (!r) := by cases h1 : g r <;> cases h2 : g (!r) <;> simp_all
      have h' : g (!r) ≠ g (!!r) := by simpa using Ne.symm h
      simp only [crossed]
      split
      · rfl
      · rw [hr, ih (!r) h']
  fun_induction merge f p q as bs with
  | case1 p q bs h => exact (constant (f p) q bs h).symm
  | case2 p q bs h => exact moving (f p) bs q h
  | case3 p q a as h => exact (constant (f · q) p (a :: as) h).symm
  | case4 p q a as h => exact moving (f · q) (a :: as) p h
  | case5 p q a as b bs hab ih =>
    have ha' := List.pairwise_cons.1 ha
    have hb' := List.pairwise_cons.1 hb
    have hlt : ∀ x ∈ merge f (!p) q as (b :: bs), a < x := fun x hx => by
      rcases mem_merge hx with h | h
      · exact ha'.1 x h
      · rcases List.mem_cons.1 h with rfl | h
        · exact hab
        · exact Nat.lt_trans hab (hb'.1 x h)
    rw [crossed_mark hlt, ih ha'.2 hb]
    simp only [crossed]
    split
    · simp [show n < b by omega]
    · rfl
  | case6 p q a as b bs hab hba ih =>
    have ha' := List.pairwise_cons.1 ha
    have hb' := List.pairwise_cons.1 hb
    have hlt : ∀ x ∈ merge f p (!q) (a :: as) bs, b < x := fun x hx => by
      rcases mem_merge hx with h | h
      · rcases List.mem_cons.1 h with rfl | h
        · exact hba
        · exact Nat.lt_trans hba (ha'.1 x h)
      · exact hb'.1 x h
    rw [crossed_mark hlt, ih ha hb'.2]
    simp only [crossed]
    by_cases h : n < b
    · simp [h, show n < a by omega]
    · simp [h]
  | case7 p q a as b bs hab hba ih =>
    have ha' := List.pairwise_cons.1 ha
    have hb' := List.pairwise_cons.1 hb
    obtain rfl : a = b := by omega
    have hlt : ∀ x ∈ merge f (!p) (!q) as bs, a < x := fun x hx => by
      rcases mem_merge hx with h | h
      · exact ha'.1 x h
      · exact hb'.1 x h
    rw [crossed_mark hlt, ih ha'.2 hb'.2]
    simp only [crossed]
    split <;> rfl

end CharSet

/-- A set of characters, by their code points. -/
structure CharSet where
  /-- The code points at which membership changes; before the first there are no
  members. -/
  changes : List Nat
  /-- Each of them is named once, in ascending order. -/
  ascending : changes.Pairwise (· < ·)
deriving DecidableEq, Repr

namespace CharSet

/-! ### Membership -/

/-- Whether a code point is a member. -/
def contains (s : CharSet) (n : Nat) : Bool := crossed false s.changes n

/-- Whether a character is a member. -/
def mem (s : CharSet) (c : Char) : Bool := s.contains c.toNat

/-! ### Building sets -/

/-- The set without members. -/
def empty : CharSet := ⟨[], .nil⟩

/-- The code points between two, both included. -/
def interval (first last : Nat) : CharSet :=
  if h : first ≤ last then ⟨[first, last + 1], pairwise_ends (Nat.lt_succ_of_le h)⟩ else empty

/-- The code points for which `f` holds of the memberships in two sets. It must
not hold of a code point that is in neither. -/
def combine (f : Bool → Bool → Bool) (a b : CharSet) : CharSet :=
  ⟨merge f false false a.changes b.changes, pairwise_merge a.ascending b.ascending⟩

/-- The characters in either set. -/
def union : CharSet → CharSet → CharSet := combine (· || ·)

/-- The characters in both sets. -/
def inter : CharSet → CharSet → CharSet := combine (· && ·)

/-- The characters in the first set and not in the second. -/
def diff : CharSet → CharSet → CharSet := combine fun p q => p && !q

/-- The characters in exactly one of the sets. -/
def symmDiff : CharSet → CharSet → CharSet := combine (· != ·)

/-- The characters in any of the sets. -/
def unions (sets : List CharSet) : CharSet := sets.foldr union empty

theorem contains_combine {f : Bool → Bool → Bool} (h : f false false = false) (a b : CharSet)
    (n : Nat) : (combine f a b).contains n = f (a.contains n) (b.contains n) := by
  have := crossed_merge (f := f) (p := false) (q := false) a.ascending b.ascending n
  rwa [h] at this

@[simp] theorem contains_union (a b : CharSet) (n : Nat) :
    (a.union b).contains n = (a.contains n || b.contains n) :=
  contains_combine (f := (· || ·)) rfl a b n

@[simp] theorem contains_inter (a b : CharSet) (n : Nat) :
    (a.inter b).contains n = (a.contains n && b.contains n) :=
  contains_combine (f := (· && ·)) rfl a b n

@[simp] theorem contains_diff (a b : CharSet) (n : Nat) :
    (a.diff b).contains n = (a.contains n && !b.contains n) :=
  contains_combine (f := fun p q => p && !q) rfl a b n

@[simp] theorem contains_symmDiff (a b : CharSet) (n : Nat) :
    (a.symmDiff b).contains n = (a.contains n != b.contains n) :=
  contains_combine (f := (· != ·)) rfl a b n

@[simp] theorem contains_interval (first last n : Nat) :
    (interval first last).contains n = (first ≤ n && n ≤ last) := by
  unfold interval contains
  split
  · simp only [crossed]
    grind
  · simp only [empty, crossed]
    grind

/-! ### All characters -/

/-- The set of all characters: the code points that are no surrogates. -/
def all : CharSet := ⟨[0, 0xD800, 0xE000, 0x110000], by decide⟩

/-- The characters not in the set. -/
def compl (s : CharSet) : CharSet := all.diff s

/-- The set itself, or its complement if `negated`. -/
def negateIf (negated : Bool) (s : CharSet) : CharSet := if negated then s.compl else s

/-- The set of one character. -/
def single (c : Char) : CharSet := interval c.toNat c.toNat

/-- The characters between two, both included. -/
def range (low high : Char) : CharSet := all.inter (interval low.toNat high.toNat)

/-- The characters of a list of ranges. -/
def ofRanges (rs : List (Char × Char)) : CharSet :=
  unions (rs.map fun (low, high) => range low high)

/-! ### Intervals -/

/-- The intervals between every second place and the next. -/
def pairUp : List Nat → List (Nat × Nat)
  | first :: stop :: rest => (first, stop - 1) :: pairUp rest
  | _ => []

/-- The intervals of the set, each by its ends, in ascending order. -/
def intervals (s : CharSet) : List (Nat × Nat) := pairUp s.changes

/-- The set with every member moved by a distance. -/
def shift (s : CharSet) (distance : Int) : CharSet :=
  unions (s.intervals.map fun (first, last) =>
    interval ((first : Int) + distance).toNat ((last : Int) + distance).toNat)

/-- The only member of a set, if it has just one. -/
def single? (s : CharSet) : Option Char :=
  match s.intervals with
  | [(first, last)] => if first = last then some (Char.ofNat first) else none
  | _ => none

/-- Whether all members are ASCII characters. -/
def isAscii (s : CharSet) : Bool := s.intervals.all fun (_, last) => last < 0x80

/-! ### Tables -/

/-- The code points of equal steps from `first`. -/
def steps (first step : Nat) : (count : Nat) → CharSet
  | 0 => empty
  | count + 1 => (interval first first).union (steps (first + step) step count)

/-- The code points of a run. -/
def ofRun (r : Unicode.Run) : CharSet :=
  if r.step = 1 then interval r.first r.last
  else steps r.first r.step ((r.last - r.first) / r.step + 1)

/-- The code points of a table. -/
def ofTable (t : Unicode.Table) : CharSet := unions (t.map ofRun)

/-- The code points of a table in its written form. -/
def ofText (s : String) : CharSet := ofTable (.ofText s)

example : (range 'a' 'f').changes = [0x61, 0x67] := by decide +kernel
example : (range 'a' 'f').compl.changes = [0, 0x61, 0x67, 0xD800, 0xE000, 0x110000] := by
  decide +kernel
example : (single 'a').compl.compl = single 'a' := by decide +kernel
example : ((range 'a' 'c').union (single 'd')).intervals = [(0x61, 0x64)] := by decide +kernel

end CharSet

end SqlProbe
