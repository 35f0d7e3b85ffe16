import Redial.Proofs.Cuts
import Redial.Text.Case

/-! # Lower-casing

    A lower-cased text has nothing left to lower: `lower_lower`.  Its characters are
    fixed one by one, because no run of the table yields a code point that a run
    holds, and a capital sigma, whose lower-case form depends on its neighbours, is
    yielded by none.

    What a run yields in ASCII is a letter, so the marks of a text stay as they are:
    `mem_lower_iff`. -/

namespace Redial.Text

/-! ## Section 1: Runs -/

namespace CaseRun

/-- The first code point that a run yields. -/
def lowest (r : CaseRun) : Nat := ((r.first : Int) + r.delta).toNat

/-- The last code point that a run yields. -/
def highest (r : CaseRun) : Nat := ((r.last : Int) + r.delta).toNat

/-- A run holds the code point. -/
def Holds (r : CaseRun) (n : Nat) : Prop :=
  r.first ≤ n ∧ n ≤ r.last ∧ (n - r.first) % r.step = 0

/-- A run holds one code point, or every other one. -/
def isSparse (r : CaseRun) : Bool := r.step == 2 || r.first == r.last

/-- No code point that the one run yields is held by the other: the ranges are
    disjoint, or the runs meet only between each other's code points. -/
def clears (r q : CaseRun) : Bool :=
  r.highest.blt q.first || q.last.blt r.lowest ||
    (r.isSparse && q.isSparse && (r.lowest + q.first) % 2 == 1)

/-- The dotted capital I, which is lower-cased to two characters. -/
def dottedI : CaseRun := ⟨0x130, 0x130, 1, 0⟩

/-- A run of characters that yields characters which are lower-cased already. -/
def isSound (r : CaseRun) : Bool :=
  decide (0 ≤ (r.first : Int) + r.delta) && r.clears dottedI &&
    (decide (r.highest < 0xd800) || decide (0xe000 ≤ r.lowest ∧ r.highest < 0x110000)) &&
    (decide (128 ≤ r.lowest) ||
      (r.first == r.last && (Char.ofNat r.lowest).toLower == Char.ofNat r.lowest))

theorem lowerRuns_clear : (lowerRuns.all fun r => lowerRuns.all r.clears) = true := by
  decide +kernel

theorem lowerRuns_sound : ∀ r ∈ lowerRuns, r.isSound = true := by decide +kernel

/-- What a run yields for a code point that it holds. -/
theorem yield_bounds {r : CaseRun} {n : Nat} (hr : r.isSound = true) (hn : r.Holds n) :
    r.lowest ≤ ((n : Int) + r.delta).toNat ∧ ((n : Int) + r.delta).toNat ≤ r.highest ∧
      (r.isSparse = true → ((n : Int) + r.delta).toNat % 2 = r.lowest % 2) := by
  obtain ⟨hfirst, hlast, hstep⟩ := hn
  simp only [isSound, Bool.and_eq_true, decide_eq_true_eq] at hr
  obtain ⟨⟨⟨hlow, -⟩, -⟩, -⟩ := hr
  unfold lowest highest
  refine ⟨by omega, by omega, fun hsparse => ?_⟩
  simp only [isSparse, Bool.or_eq_true, beq_iff_eq] at hsparse
  rcases hsparse with htwo | hone
  · rw [htwo] at hstep
    omega
  · omega

/-- A run that is cleared by another does not hold what that one yields. -/
theorem not_holds_yield {r q : CaseRun} {n : Nat} (hr : r.isSound = true) (hn : r.Holds n)
    (hclear : r.clears q = true) : ¬ q.Holds ((n : Int) + r.delta).toNat := by
  rintro ⟨hfirst, hlast, hstep⟩
  obtain ⟨hlow, hhigh, hparity⟩ := yield_bounds hr hn
  simp only [clears, Bool.or_eq_true, Nat.blt_eq, Bool.and_eq_true, beq_iff_eq] at hclear
  rcases hclear with (hbelow | habove) | ⟨⟨hsparse, hother⟩, hodd⟩
  · omega
  · omega
  · have heven := hparity hsparse
    simp only [isSparse, Bool.or_eq_true, beq_iff_eq] at hother
    rcases hother with htwo | hone
    · rw [htwo] at hstep
      omega
    · omega

end CaseRun

/-- A code point is moved by the run that holds it, or by none. -/
theorem shiftBy_cases (runs : List CaseRun) (n : Nat) :
    (∃ r ∈ runs, r.Holds n ∧ shiftBy runs n = ((n : Int) + r.delta).toNat) ∨
      (∀ r ∈ runs, ¬ r.Holds n) ∧ shiftBy runs n = n := by
  unfold shiftBy
  split
  · rename_i r hfind
    have hholds := List.find?_some hfind
    simp only [Bool.and_eq_true, decide_eq_true_eq, beq_iff_eq] at hholds
    exact .inl ⟨r, List.mem_of_find?_eq_some hfind, ⟨hholds.1.1, hholds.1.2, hholds.2⟩, rfl⟩
  · rename_i hfind
    refine .inr ⟨fun r hr hholds => ?_, rfl⟩
    have hnot := List.find?_eq_none.mp hfind r hr
    simp only [Bool.and_eq_true, decide_eq_true_eq, beq_iff_eq] at hnot
    exact hnot ⟨⟨hholds.1, hholds.2.1⟩, hholds.2.2⟩

theorem shiftBy_eq_self {runs : List CaseRun} {n : Nat} (hn : ∀ r ∈ runs, ¬ r.Holds n) :
    shiftBy runs n = n := by
  rcases shiftBy_cases runs n with ⟨r, hr, hholds, -⟩ | ⟨-, hself⟩
  · exact absurd hholds (hn r hr)
  · exact hself

/-! ## Section 2: Characters -/

/-- A character that is lower-cased already, in every context. -/
def IsLowered (c : Char) : Prop := lowerChar c = [c] ∧ c ≠ 'Σ'

theorem isLowered_ascii {c : Char} (hascii : c.toNat < 128) : IsLowered c.toLower := by
  have hcases : ∀ n < 128, (Char.ofNat n).toLower.toNat < 128 ∧
      (Char.ofNat n).toLower.toLower = (Char.ofNat n).toLower := by decide
  have hc := hcases c.toNat hascii
  rw [Char.ofNat_toNat] at hc
  refine ⟨?_, ?_⟩
  · rw [lowerChar, if_pos hc.1, hc.2]
  · intro hsigma
    rw [hsigma] at hc
    exact absurd hc.1 (by decide)

/-- The capital sigma is held by a run. -/
theorem sigma_held : ∃ r ∈ lowerRuns, r.Holds 'Σ'.toNat := by
  unfold CaseRun.Holds
  decide +kernel

/-- A character beyond ASCII that no run holds is lower-cased already. -/
theorem isLowered_of_unheld {c : Char} (hwide : ¬ c.toNat < 128) (hdotted : c ≠ 'İ')
    (hc : ∀ r ∈ lowerRuns, ¬ r.Holds c.toNat) : IsLowered c := by
  refine ⟨?_, ?_⟩
  · rw [lowerChar, if_neg hwide, if_neg hdotted, shiftBy_eq_self hc, Char.ofNat_toNat]
  · rintro rfl
    obtain ⟨r, hr, hholds⟩ := sigma_held
    exact hc r hr hholds

/-- What a run yields is the code point of a character. -/
theorem toNat_yield {r : CaseRun} {n : Nat} (hr : r ∈ lowerRuns) (hn : r.Holds n) :
    (Char.ofNat ((n : Int) + r.delta).toNat).toNat = ((n : Int) + r.delta).toNat := by
  have hsound := CaseRun.lowerRuns_sound r hr
  obtain ⟨hlow, hhigh, -⟩ := CaseRun.yield_bounds hsound hn
  have hok : ((n : Int) + r.delta).toNat.isValidChar := by
    simp only [CaseRun.isSound, Bool.and_eq_true, Bool.or_eq_true, decide_eq_true_eq] at hsound
    unfold Nat.isValidChar
    omega
  rw [Char.ofNat, dif_pos hok]
  rfl

/-- What a run yields is lower-cased already. -/
theorem isLowered_yield {r : CaseRun} {n : Nat} (hr : r ∈ lowerRuns) (hn : r.Holds n) :
    IsLowered (Char.ofNat ((n : Int) + r.delta).toNat) := by
  have hsound := CaseRun.lowerRuns_sound r hr
  have hunheld : ∀ q ∈ lowerRuns, ¬ q.Holds ((n : Int) + r.delta).toNat := fun q hq =>
    CaseRun.not_holds_yield hsound hn
      (List.all_eq_true.mp (List.all_eq_true.mp CaseRun.lowerRuns_clear r hr) q hq)
  obtain ⟨hlow, hhigh, -⟩ := CaseRun.yield_bounds hsound hn
  simp only [CaseRun.isSound, Bool.and_eq_true, Bool.or_eq_true, decide_eq_true_eq,
    beq_iff_eq] at hsound
  obtain ⟨⟨⟨hstart, hdotted⟩, hvalid⟩, hascii⟩ := hsound
  have htoNat := toNat_yield hr hn
  by_cases hwide : ((n : Int) + r.delta).toNat < 128
  -- the Kelvin sign yields an ASCII letter
  · have hone : Char.ofNat ((n : Int) + r.delta).toNat
        = (Char.ofNat ((n : Int) + r.delta).toNat).toLower := by
      rcases hascii with hno | ⟨hsingle, hlowered⟩
      · omega
      · have hsame : ((n : Int) + r.delta).toNat = r.lowest := by
          have := hn.1
          have := hn.2.1
          unfold CaseRun.lowest
          omega
        rw [hsame, hlowered]
    rw [hone]
    exact isLowered_ascii (by rwa [htoNat])
  · refine isLowered_of_unheld (by rwa [htoNat]) ?_ (by rwa [htoNat])
    intro heq
    have hnotI := CaseRun.not_holds_yield (q := CaseRun.dottedI) (CaseRun.lowerRuns_sound r hr) hn
      hdotted
    rw [← htoNat, heq] at hnotI
    exact hnotI (by unfold CaseRun.Holds; decide)

/-- No run holds the combining dot that the dotted capital I yields, or a small sigma. -/
theorem beside_unheld : ∀ r ∈ lowerRuns, ∀ n ∈ [0x307, 0x3c2, 0x3c3], ¬ r.Holds n := by
  unfold CaseRun.Holds
  decide +kernel

/-- The characters that are yielded beside the runs are lower-cased already. -/
theorem isLowered_beside {c : Char} (hc : c.toNat ∈ [0x307, 0x3c2, 0x3c3]) : IsLowered c := by
  have hwide : ¬ c.toNat < 128 := by
    simp only [List.mem_cons, List.not_mem_nil, or_false] at hc
    omega
  refine isLowered_of_unheld hwide ?_ fun r hr => beside_unheld r hr _ hc
  rintro rfl
  exact absurd hc (by decide)

/-- Whatever a character is lower-cased to is lower-cased already. -/
theorem isLowered_of_mem_lowerChar {c d : Char} (hd : d ∈ lowerChar c) : IsLowered d := by
  unfold lowerChar at hd
  by_cases hascii : c.toNat < 128
  · rw [if_pos hascii, List.mem_singleton] at hd
    rw [hd]
    exact isLowered_ascii hascii
  rw [if_neg hascii] at hd
  by_cases hdotted : c = 'İ'
  · rw [if_pos hdotted] at hd
    simp only [List.mem_cons, List.not_mem_nil, or_false] at hd
    rcases hd with rfl | rfl
    · exact isLowered_ascii (c := 'i') (by decide)
    · exact isLowered_beside (by decide)
  rw [if_neg hdotted, List.mem_singleton] at hd
  rw [hd]
  rcases shiftBy_cases lowerRuns c.toNat with ⟨r, hr, hholds, hshift⟩ | ⟨hunheld, hshift⟩
  · rw [hshift]
    exact isLowered_yield hr hholds
  · rw [hshift, Char.ofNat_toNat]
    exact isLowered_of_unheld hascii hdotted hunheld

/-! ## Section 3: Texts -/

theorem isLowered_of_mem_lowerFrom {inWord : Bool} {cs : List Char} {d : Char}
    (hd : d ∈ lowerFrom inWord cs) : IsLowered d := by
  induction cs generalizing inWord with
  | nil => cases hd
  | cons c cs ih =>
    rw [lowerFrom, List.mem_append] at hd
    rcases hd with hhere | hrest
    · by_cases hsigma : c = 'Σ'
      · rw [if_pos hsigma] at hhere
        split at hhere
        · rw [List.mem_singleton.mp hhere]
          exact isLowered_beside (by decide)
        · rw [List.mem_singleton.mp hhere]
          exact isLowered_beside (by decide)
      · rw [if_neg hsigma] at hhere
        exact isLowered_of_mem_lowerChar hhere
    · exact ih hrest

theorem lowerFrom_eq_self {cs : List Char} (hcs : ∀ c ∈ cs, IsLowered c) (inWord : Bool) :
    lowerFrom inWord cs = cs := by
  induction cs generalizing inWord with
  | nil => rfl
  | cons c cs ih =>
    obtain ⟨hc, hsigma⟩ := hcs c List.mem_cons_self
    rw [lowerFrom, if_neg hsigma, hc, ih fun d hd => hcs d (List.mem_cons_of_mem c hd)]
    rfl

/-- A text of lower-cased characters is its own lower-case form. -/
theorem lower_eq_self {s : String} (hs : ∀ c ∈ s.toList, IsLowered c) : lower s = s := by
  unfold lower
  split
  · rename_i hascii
    have hfixed : ∀ c ∈ s.toList, c.toLower = id c := by
      intro c hc
      obtain ⟨hlower, -⟩ := hs c hc
      rw [lowerChar, if_pos (of_decide_eq_true (List.all_eq_true.mp hascii c hc))] at hlower
      exact List.singleton_inj.mp hlower
    rw [List.map_congr_left hfixed, List.map_id, String.ofList_toList]
  · rw [lowerFrom_eq_self hs, String.ofList_toList]

/-- Lower-casing a text twice is lower-casing it once. -/
theorem lower_lower (s : String) : lower (lower s) = lower s := by
  refine lower_eq_self fun d hd => ?_
  unfold lower at hd
  split at hd
  · rename_i hascii
    rw [String.toList_ofList, List.mem_map] at hd
    obtain ⟨c, hc, rfl⟩ := hd
    exact isLowered_ascii (of_decide_eq_true (List.all_eq_true.mp hascii c hc))
  · rw [String.toList_ofList] at hd
    exact isLowered_of_mem_lowerFrom hd

/-! ## Section 4: Marks of ASCII -/

/-- The runs that yield something in ASCII hold one character each, and yield a letter. -/
theorem lowerRuns_letters : ∀ r ∈ lowerRuns,
    128 ≤ r.lowest ∨ r.first = r.last ∧ (Char.ofNat r.lowest).isAlpha = true := by
  decide +kernel

/-- What a run yields is a letter, or beyond ASCII. -/
theorem isAlpha_yield {r : CaseRun} {n : Nat} (hr : r ∈ lowerRuns) (hn : r.Holds n)
    (hascii : (Char.ofNat ((n : Int) + r.delta).toNat).toNat < 128) :
    (Char.ofNat ((n : Int) + r.delta).toNat).isAlpha = true := by
  obtain ⟨hlow, hhigh, -⟩ := CaseRun.yield_bounds (CaseRun.lowerRuns_sound r hr) hn
  rw [toNat_yield hr hn] at hascii
  rcases lowerRuns_letters r hr with hwide | ⟨hsingle, hletter⟩
  · omega
  · have hyield : ((n : Int) + r.delta).toNat = r.lowest := by
      unfold CaseRun.lowest CaseRun.highest at *
      omega
    rw [hyield]
    exact hletter

section marks

variable {d : Char} (hascii : d.toNat < 128) (hmark : d.isAlpha = false)

include hascii hmark

/-- A character of ASCII that is no letter is the lower-case form of itself alone. -/
theorem mem_lowerChar_iff {c : Char} : d ∈ lowerChar c ↔ d = c := by
  have hlower : ∀ a : Char, a.toNat < 128 → a.toLower.isAlpha = false → a.toLower = a :=
    fun a ha => ascii_forall (P := fun a => a.toLower.isAlpha = false → a.toLower = a)
      (by decide) ha
  have hself : ∀ a : Char, a.toNat < 128 → a.isAlpha = false → a.toLower = a :=
    fun a ha => ascii_forall (P := fun a => a.isAlpha = false → a.toLower = a) (by decide) ha
  constructor
  · intro hd
    unfold lowerChar at hd
    by_cases hc : c.toNat < 128
    · rw [if_pos hc, List.mem_singleton] at hd
      rw [hd]
      exact hlower c hc (hd ▸ hmark)
    rw [if_neg hc] at hd
    by_cases hdotted : c = 'İ'
    · rw [if_pos hdotted] at hd
      simp only [List.mem_cons, List.not_mem_nil, or_false] at hd
      rcases hd with rfl | rfl
      · exact absurd hmark (by decide)
      · exact absurd hascii (by decide)
    rw [if_neg hdotted, List.mem_singleton] at hd
    rcases shiftBy_cases lowerRuns c.toNat with ⟨r, hr, hholds, hshift⟩ | ⟨-, hshift⟩
    · rw [hshift] at hd
      rw [hd] at hascii hmark
      rw [isAlpha_yield hr hholds hascii] at hmark
      cases hmark
    · rw [hshift, Char.ofNat_toNat] at hd
      exact hd
  · rintro rfl
    rw [lowerChar, if_pos hascii, hself d hascii hmark]
    exact List.mem_singleton_self d

theorem mem_lowerFrom_iff {inWord : Bool} {cs : List Char} : d ∈ lowerFrom inWord cs ↔ d ∈ cs := by
  induction cs generalizing inWord with
  | nil => rfl
  | cons c cs ih =>
    rw [lowerFrom, List.mem_append, List.mem_cons, ih]
    by_cases hsigma : c = 'Σ'
    -- neither sigma is in ASCII
    · have hno : ∀ a : Char, ¬ a.toNat < 128 → d ≠ a := by
        rintro a ha rfl
        exact ha hascii
      rw [if_pos hsigma, hsigma]
      split <;> simp only [List.mem_singleton, hno 'ς' (by decide), hno 'σ' (by decide),
        hno 'Σ' (by decide)]
    · rw [if_neg hsigma, mem_lowerChar_iff hascii hmark]

/-- Lower-casing neither adds nor removes a mark. -/
theorem mem_lower_iff {s : String} : d ∈ (lower s).toList ↔ d ∈ s.toList := by
  unfold lower
  split
  · rename_i hs
    rw [String.toList_ofList, List.mem_map]
    constructor
    · rintro ⟨c, hc, rfl⟩
      have hcascii : c.toNat < 128 := of_decide_eq_true (List.all_eq_true.mp hs c hc)
      have hmem : c.toLower ∈ lowerChar c := by
        rw [lowerChar, if_pos hcascii]
        exact List.mem_singleton_self _
      rw [(mem_lowerChar_iff hascii hmark).mp hmem]
      exact hc
    · intro hd
      refine ⟨d, hd, ?_⟩
      have hmem := (mem_lowerChar_iff hascii hmark).mpr rfl
      rw [lowerChar, if_pos hascii, List.mem_singleton] at hmem
      exact hmem.symm
  · rw [String.toList_ofList, mem_lowerFrom_iff hascii hmark]

end marks

end Redial.Text
