import Mathlib.Algebra.Ring.Nat
import Redial.Proofs.Url.Writing

/-! # Hosts and ports that are read again

    Reading brings a host into a form that it keeps when it is written and read again,
    with one exception: what is percent-encoded gets capital digits, and a written host
    is lower-cased before it is encoded.  So the escapes of a name lose their capitals
    when they are read again, and then stay as they are (`normalHost_hostText`).

    A port is written in plain digits and read as the number that it is.  There are never
    too many of them, because a number that was read had few enough. -/

namespace Redial.Url

/-! ## Section 1: Characters -/

/-- A text without ASCII control characters. -/
def Printable (cs : List Char) : Prop := ∀ c ∈ cs, 0x20 ≤ c.toNat ∧ c.toNat ≠ 0x7f

theorem printable_of_all {cs : List Char}
    (hcs : cs.all (fun c => 0x20 ≤ c.toNat && c.toNat != 0x7f) = true) : Printable cs := by
  intro c hc
  have hboth := List.all_eq_true.mp hcs c hc
  simpa using hboth

theorem Printable.subset {as bs : List Char} (hb : Printable bs) (hsub : ∀ c ∈ as, c ∈ bs) :
    Printable as := fun c hc => hb c (hsub c hc)

theorem Printable.append {as bs : List Char} (ha : Printable as) (hb : Printable bs) :
    Printable (as ++ bs) := fun c hc => (List.mem_append.mp hc).elim (ha c) (hb c)

theorem findControl_eq_none {cs : List Char} : findControl cs = none ↔ Printable cs := by
  unfold findControl
  rw [List.find?_eq_none]
  constructor
  · intro hnone c hc
    obtain ⟨i, hi⟩ := List.mem_iff_getElem?.mp hc
    have hfree := hnone (c, i) (List.mem_zipIdx_iff_getElem?.mpr hi)
    simp only [Bool.or_eq_true, decide_eq_true_eq, beq_iff_eq, not_or] at hfree
    omega
  · intro hall p hp
    have hc := hall p.1 (List.fst_mem_of_mem_zipIdx hp)
    simp only [Bool.or_eq_true, decide_eq_true_eq, beq_iff_eq, not_or]
    omega

theorem toLower_toLower (c : Char) : c.toLower.toLower = c.toLower := by
  by_cases hcapital : c.val ≥ 'A'.val ∧ c.val ≤ 'Z'.val
  · have hascii : c.toNat < 128 := by
      have hle : c.val.toNat ≤ 90 := hcapital.2
      show c.val.toNat < 128
      omega
    exact Text.ascii_forall (P := fun c => c.toLower.toLower = c.toLower) (by decide) hascii
  · have hsame : c.toLower = c := dif_neg hcapital
    rw [hsame, hsame]

theorem map_toLower_toLower (cs : List Char) :
    (cs.map Char.toLower).map Char.toLower = cs.map Char.toLower := by
  rw [List.map_map]
  exact List.map_congr_left fun c _ => toLower_toLower c

theorem ascii_of_hostSafe {c : Char} (hc : hostSafe c = true) : c.toNat < 128 := by
  simp only [hostSafe, isUnreserved, Bool.or_eq_true, beq_iff_eq, List.contains_iff_mem] at hc
  rcases hc with ((((halnum | rfl) | rfl) | rfl) | rfl) | hmark
  · exact toNat_lt_of_isSchemeChar (by simp [isSchemeChar, halnum])
  · decide
  · decide
  · decide
  · decide
  · have hall : "!$&'()*+,;=\"\x60\x7b\x7d%|\\".toList.all (fun d => d.toNat < 128) = true := by
      decide
    exact of_decide_eq_true (List.all_eq_true.mp hall c hmark)

theorem hostSafe_lower {cs : List Char} (hcs : ∀ c ∈ cs, hostSafe c = true) :
    ∀ c ∈ cs.map Char.toLower, hostSafe c = true := by
  intro c hc
  obtain ⟨d, hd, rfl⟩ := List.mem_map.mp hc
  exact Text.ascii_forall (P := fun c => hostSafe c = true → hostSafe c.toLower = true)
    (by decide +kernel)
    (ascii_of_hostSafe (hcs d hd)) (hcs d hd)

/-! ## Section 2: Addresses -/

theorem ascii_of_isDigit {c : Char} (hc : c.isDigit = true) : c.toNat < 128 :=
  toNat_lt_of_isSchemeChar (by simp [isSchemeChar, Char.isAlphanum, hc])

/-- What looks like an address of four numbers is made of digits and points. -/
theorem of_looksLikeIPv4 {cs : List Char} (hcs : looksLikeIPv4 cs = true) :
    ∀ c ∈ cs, c = '.' ∨ c.isDigit = true := by
  obtain ⟨-, hruns⟩ := Bool.and_eq_true_iff.mp hcs
  intro c hc
  rw [← Text.join_pieces '.' cs] at hc
  refine (mem_join hc).imp_right fun ⟨p, hp, hmem⟩ => ?_
  have hrun := List.all_eq_true.mp hruns p hp
  exact List.all_eq_true.mp (Bool.and_eq_true_iff.mp hrun).2 c hmem

/-- An address between brackets has colons. -/
theorem colon_of_isIPv6 {cs : List Char} (hcs : isIPv6 cs = true) : ':' ∈ cs := by
  by_contra hcolon
  have haddress : ':' ∉ (Text.cut '%' cs).1 := by
    rcases Text.cut_cases '%' cs with ⟨-, hcut⟩ | ⟨before, after, hsplit, -, hcut⟩
    · rw [hcut]
      exact hcolon
    · rw [hcut]
      intro hmem
      rw [hsplit] at hcolon
      exact hcolon (List.mem_append_left _ hmem)
  unfold isIPv6 at hcs
  dsimp only at hcs
  rw [Text.pieces_of_not_mem haddress] at hcs
  simp at hcs

/-! ## Section 3: Hosts -/

/-- A host as reading leaves it: an address with colons, or a name of safe characters,
    with percent-escapes or in lower case. -/
def SettledHost (host : List Char) : Prop :=
  isIPv6 host = true ∧ Printable host ∨
    (∀ c ∈ host, hostSafe c = true) ∧ ('%' ∈ host ∨ host.map Char.toLower = host)

theorem map_toLower_eq_self {cs : List Char} (hcs : ∀ c ∈ cs, c.toLower = c) :
    cs.map Char.toLower = cs := by
  rw [List.map_congr_left hcs, List.map_id']

/-- An encoded text has a percent sign unless all its characters are safe. -/
theorem encode_cases (safe : Char → Bool) (cs : List Char) :
    encode safe cs = cs ∨ '%' ∈ encode safe cs := by
  induction cs with
  | nil => exact .inl rfl
  | cons c cs ih =>
    rw [encode_cons]
    rcases head_encodeChar safe c with ⟨-, hc⟩ | ⟨-, rest, hc⟩
    · rw [hc]
      rcases ih with hsame | hpercent
      · exact .inl (congrArg (c :: ·) hsame)
      · exact .inr (List.mem_cons_of_mem c hpercent)
    · rw [hc]
      exact .inr List.mem_cons_self

theorem SettledHost.of_lower {cs : List Char}
    (hcs : ∀ c ∈ cs, hostSafe c = true ∧ c.toLower = c) : SettledHost cs :=
  .inr ⟨fun c hc => (hcs c hc).1, .inr (map_toLower_eq_self fun c hc => (hcs c hc).2)⟩

theorem settled_of_normalHost {host normal : List Char} (hp : Printable host)
    (hn : normalHost host = .ok normal) : SettledHost normal := by
  cases form_of_normalHost hn with
  | absent => exact .of_lower nofun
  | numbers _ hdigits =>
    apply SettledHost.of_lower
    intro c hc
    rcases of_looksLikeIPv4 hdigits c hc with rfl | hdigit
    · decide
    · exact Text.ascii_forall (P := fun c => c.isDigit = true → hostSafe c = true ∧ c.toLower = c)
        (by decide) (ascii_of_isDigit hdigit) hdigit
  | address _ haddress hwithin => exact .inl ⟨haddress, hp.subset hwithin⟩
  | ascii =>
    refine .inr ⟨fun c hc => safe_of_mem_encode safeSet_host hc, ?_⟩
    -- what was encoded has capitals in its escapes, and the rest is in lower case
    rcases encode_cases hostSafe (host.map Char.toLower) with hsame | hpercent
    · right
      rw [hsame]
      exact map_toLower_toLower host
    · exact .inl hpercent
  | name _ hname =>
    apply SettledHost.of_lower
    intro c hc
    rcases (of_sentName hname).2 c hc with rfl | ⟨hascii, hletter⟩
    · decide
    · exact Text.ascii_forall (P := fun c => isHostLetter c = true → hostSafe c = true ∧ c.toLower = c)
        (by decide) hascii hletter

/-- A name of safe characters is lower-cased when it is read. -/
theorem normalHost_name {host : List Char} (hempty : host ≠ [])
    (hsafe : ∀ c ∈ host, hostSafe c = true) (hname : looksLikeIPv4 host = false) :
    normalHost host = .ok (host.map Char.toLower) := by
  have hbracket : ¬ (host.head? = some '[' && host.getLast? = some ']' && 2 ≤ host.length) = true := by
    intro hbracket
    simp only [Bool.and_eq_true, decide_eq_true_eq] at hbracket
    exact absurd (hsafe '[' (List.mem_of_mem_head? hbracket.1.1)) (by decide)
  have hascii : (host.all fun c => c.toNat < 128) = true :=
    List.all_eq_true.mpr fun c hc => decide_eq_true (ascii_of_hostSafe (hsafe c hc))
  unfold normalHost
  rw [if_neg (by rwa [List.isEmpty_iff]), hname, if_neg Bool.false_ne_true, if_neg hbracket,
    if_pos hascii, encode_eq_self (hostSafe_lower hsafe)]

/-- A host of safe characters is read as it is, but for the capitals of its escapes, and
    from then on it is read as it is. -/
theorem normalHost_safe {host normal : List Char} (hsafe : ∀ c ∈ host, hostSafe c = true)
    (hlower : '%' ∈ host ∨ host.map Char.toLower = host) (hn : normalHost host = .ok normal) :
    (normal = host ∨ '%' ∈ host ∧ normal = host.map Char.toLower) ∧
      normalHost normal = .ok normal := by
  by_cases hempty : host = []
  · subst hempty
    cases hn
    exact ⟨.inl rfl, rfl⟩
  by_cases haddress : looksLikeIPv4 host = true
  · have hsame : normal = host := by
      unfold normalHost at hn
      rw [if_neg (by rwa [List.isEmpty_iff]), if_pos haddress] at hn
      split at hn
      · exact (Except.ok.inj hn).symm
      · exact absurd hn nofun
    exact ⟨.inl hsame, by rwa [hsame] at hn ⊢⟩
  · rw [Bool.not_eq_true] at haddress
    have hname := normalHost_name hempty hsafe haddress
    obtain rfl : host.map Char.toLower = normal := Except.ok.inj (hname.symm.trans hn)
    by_cases hpercent : '%' ∈ host
    -- its escapes lose their capitals now, and have none to lose when it is read again
    · refine ⟨.inr ⟨hpercent, rfl⟩, ?_⟩
      have hagain : '%' ∈ host.map Char.toLower := List.mem_map.mpr ⟨'%', hpercent, rfl⟩
      have hstill : looksLikeIPv4 (host.map Char.toLower) = false := by
        rw [← Bool.not_eq_true]
        intro hdigits
        exact absurd (of_looksLikeIPv4 hdigits '%' hagain) (by decide)
      rw [normalHost_name (by simpa using hempty) (hostSafe_lower hsafe) hstill,
        map_toLower_toLower]
    · have hsame := hlower.resolve_left hpercent
      rw [hsame] at hn ⊢
      exact ⟨.inl rfl, hn⟩

/-- An address is read from between its brackets. -/
theorem normalHost_address {host : List Char} (haddress : isIPv6 host = true) :
    normalHost ('[' :: host ++ [']']) = .ok host := by
  have hname : looksLikeIPv4 ('[' :: host ++ [']']) = false := by
    rw [← Bool.not_eq_true]
    intro hdigits
    exact absurd (of_looksLikeIPv4 hdigits '[' List.mem_cons_self) (by decide)
  have hlast : ('[' :: host ++ [']']).getLast? = some ']' := List.getLast?_concat
  have hinner : (('[' :: host ++ [']']).drop 1).dropLast = host := List.dropLast_concat
  unfold normalHost
  rw [hname, hlast, hinner]
  simp [haddress]

/-- A settled host that is written and read again keeps its form, but for the capitals of
    its escapes.  It is then written in as many characters, and keeps its form from then
    on. -/
theorem normalHost_hostText {u : Url} (hs : SettledHost u.host) {normal : List Char}
    (hn : normalHost u.hostText = .ok normal) :
    (normal = u.host ∨ '%' ∈ u.host ∧ ':' ∉ u.host ∧ normal = u.host.map Char.toLower) ∧
      ∀ v : Url, v.host = normal →
        v.hostText.length = u.hostText.length ∧ normalHost v.hostText = .ok normal := by
  rcases hs with ⟨haddress, -⟩ | ⟨hsafe, hlower⟩
  · have hcolon : u.host.contains ':' = true := List.contains_iff_mem.mpr (colon_of_isIPv6 haddress)
    have htext : u.hostText = '[' :: u.host ++ [']'] := if_pos hcolon
    obtain rfl : u.host = normal := by
      rw [htext, normalHost_address haddress] at hn
      exact Except.ok.inj hn
    refine ⟨.inl rfl, fun v hv => ?_⟩
    have hsame : v.hostText = u.hostText := by
      unfold hostText
      rw [hv]
    rw [hsame]
    exact ⟨rfl, hn⟩
  -- a name has no colon, so it is written without brackets
  · have hunmarked : ∀ v : Url, (∀ c ∈ v.host, hostSafe c = true) → v.hostText = v.host := by
      intro v hv
      have hcolon : ¬ v.host.contains ':' = true := by
        rw [List.contains_iff_mem]
        intro hmem
        exact absurd (hv ':' hmem) (by decide)
      exact if_neg hcolon
    rw [hunmarked u hsafe] at hn
    obtain ⟨hnormal, hagain⟩ := normalHost_safe hsafe hlower hn
    have hnormalSafe : ∀ c ∈ normal, hostSafe c = true := by
      rcases hnormal with rfl | ⟨-, rfl⟩
      · exact hsafe
      · exact hostSafe_lower hsafe
    refine ⟨hnormal.imp_right fun ⟨hpercent, heq⟩ => ⟨hpercent, ?_, heq⟩, fun v hv => ?_⟩
    · rw [hunmarked v (by rwa [hv]), hunmarked u hsafe, hv]
      refine ⟨?_, hagain⟩
      rcases hnormal with rfl | ⟨-, rfl⟩
      · rfl
      · exact List.length_map _
    · intro hmem
      exact absurd (hsafe ':' hmem) (by decide)

/-! ## Section 4: Ports -/

theorem digitValue_of_isDigit {c : Char} (hc : c.isDigit = true) :
    Text.digitValue? c = some (c.toNat - '0'.toNat) :=
  Text.ascii_forall (P := fun c => c.isDigit = true → Text.digitValue? c = some (c.toNat - '0'.toNat))
    (by decide) (ascii_of_isDigit hc) hc

theorem digitValue_lt {c : Char} {d : Nat} (hd : Text.digitValue? c = some d) : d < 10 := by
  unfold Text.digitValue? at hd
  obtain ⟨first, hfirst, rfl⟩ := Option.map_eq_some_iff.mp hd
  have hrange := List.find?_some hfirst
  simp only [Bool.and_eq_true, decide_eq_true_eq] at hrange
  omega

/-- Plain digits are read as the number that they write. -/
theorem readDigits_digits {ds : List Char} (hds : ∀ c ∈ ds, c.isDigit = true) (value : Nat)
    {after : Bool} (hafter : ds ≠ [] ∨ after = true) :
    readDigits? value after ds = some (Nat.ofDigitChars 10 ds value) := by
  induction ds generalizing value after with
  | nil =>
    rw [readDigits?, hafter.resolve_left (fun hne => hne rfl)]
    rfl
  | cons c ds ih =>
    obtain ⟨hc, hrest⟩ := List.forall_mem_cons.mp hds
    have hmark : c ≠ '_' := by
      rintro rfl
      exact absurd hc (by decide)
    rw [readDigits?, if_neg hmark, digitValue_of_isDigit hc]
    dsimp only
    rw [ih hrest _ (.inr rfl), Nat.mul_comm]
    rfl

/-- A number that is read has at most as many digits as were written. -/
theorem readDigits_lt {ds : List Char} {value n : Nat} {after : Bool}
    (hn : readDigits? value after ds = some n) :
    n < (value + 1) * 10 ^ (ds.filter (· != '_')).length := by
  induction ds generalizing value after with
  | nil =>
    rw [readDigits?] at hn
    split at hn
    · cases hn
      simp
    · cases hn
  | cons c ds ih =>
    rw [readDigits?] at hn
    split at hn
    · next hmark =>
      split at hn
      · have hrest := ih hn
        rw [List.filter_cons_of_neg (by simp [hmark])]
        exact hrest
      · cases hn
    · next hmark =>
      split at hn
      · next d hd =>
        have hrest := ih hn
        have hdigit := digitValue_lt hd
        rw [List.filter_cons_of_pos (by simp [hmark]), List.length_cons, Nat.pow_succ]
        have hstep : value * 10 + d + 1 ≤ (value + 1) * 10 := by omega
        calc n < (value * 10 + d + 1) * 10 ^ (ds.filter (· != '_')).length := hrest
          _ ≤ (value + 1) * 10 * 10 ^ (ds.filter (· != '_')).length := Nat.mul_le_mul_right _ hstep
          _ = (value + 1) * (10 ^ (ds.filter (· != '_')).length * 10) := by
              rw [Nat.mul_assoc, Nat.mul_comm 10]
      · exact absurd hn nofun

/-- A number that is read has at most as many digits as may be read. -/
theorem natAbs_lt_of_readInteger {cs : List Char} {n : Int} (hn : readInteger? cs = some n) :
    n.natAbs < 10 ^ maxDigits := by
  have hbound : ∀ (negative : Bool) (ds : List Char),
      (if maxDigits < (ds.filter (· != '_')).length then none
        else (readDigits? 0 false ds).map fun n => if negative then -(n : Int) else n) = some n →
      n.natAbs < 10 ^ maxDigits := by
    intro negative ds hread
    split at hread
    · exact absurd hread nofun
    · next hlength =>
      cases hdigits : readDigits? 0 false ds with
      | none =>
        rw [hdigits] at hread
        exact absurd hread nofun
      | some m =>
        rw [hdigits] at hread
        have hm := readDigits_lt hdigits
        have hpow : 10 ^ (ds.filter (· != '_')).length ≤ 10 ^ maxDigits :=
          Nat.pow_le_pow_right (by decide) (Nat.le_of_not_lt hlength)
        have hnat : n.natAbs = m := by
          cases negative with
          | true => rw [← Option.some.inj hread]; exact (Int.natAbs_neg _).trans (Int.natAbs_natCast m)
          | false => rw [← Option.some.inj hread]; exact Int.natAbs_natCast m
        omega
  -- with or without a sign, the digits are read in the same way
  unfold readInteger? at hn
  split at hn
  all_goals exact hbound _ _ hn

/-- The digits of a number are read as it, with a sign if there is one. -/
theorem readInteger_digits {ds : List Char} (hds : ∀ c ∈ ds, c.isDigit = true) (hne : ds ≠ [])
    (hlength : ds.length ≤ maxDigits) :
    readInteger? ds = some (Nat.ofDigitChars 10 ds 0 : Int) ∧
      readInteger? ('-' :: ds) = some (-(Nat.ofDigitChars 10 ds 0 : Int)) := by
  have hblank : ∀ c ∈ ds, Text.isBlank c = false := fun c hc =>
    Text.ascii_forall (P := fun c => c.isDigit = true → Text.isBlank c = false) (by decide)
      (ascii_of_isDigit (hds c hc)) (hds c hc)
  have hfilter : ds.filter (· != '_') = ds := by
    rw [List.filter_eq_self]
    intro c hc
    have hmark : c ≠ '_' := by
      rintro rfl
      exact absurd (hds _ hc) (by decide)
    simpa using hmark
  have hfew : ¬ maxDigits < (ds.filter (· != '_')).length := by
    rw [hfilter]
    omega
  have hread := readDigits_digits hds 0 (.inl hne : ds ≠ [] ∨ false = true)
  unfold readInteger?
  constructor
  · rw [Text.stripWhile_of_not hblank]
    obtain ⟨c, rest, rfl⟩ := List.exists_cons_of_ne_nil hne
    have hc := hds c List.mem_cons_self
    split
    -- a digit is no sign, so all of the text is read as digits
    next negative digits hsign =>
      split at hsign
      · next heq =>
        cases heq
        exact absurd hc (by decide)
      · next heq =>
        cases heq
        exact absurd hc (by decide)
      · cases hsign
        rw [if_neg hfew, hread]
        rfl
  · rw [Text.stripWhile_of_not (List.forall_mem_cons.mpr ⟨by decide, hblank⟩)]
    show (if maxDigits < (ds.filter (· != '_')).length then none
      else (readDigits? 0 false ds).map fun n => -(n : Int)) = _
    rw [if_neg hfew, hread]
    rfl

/-- A number with few enough digits is read back as it is written. -/
theorem readInteger_toString {n : Int} (hn : n.natAbs < 10 ^ maxDigits) :
    readInteger? (toString n).toList = some n := by
  have hdigits : ∀ m : Nat, m < 10 ^ maxDigits →
      (∀ c ∈ (Nat.repr m).toList, c.isDigit = true) ∧ (Nat.repr m).toList ≠ [] ∧
        (Nat.repr m).toList.length ≤ maxDigits ∧ Nat.ofDigitChars 10 (Nat.repr m).toList 0 = m := by
    intro m hm
    rw [Nat.repr, String.toList_ofList]
    exact ⟨fun c hc => Nat.isDigit_of_mem_toDigits (by decide) (by decide) hc,
      Nat.toDigits_ne_nil, (Nat.length_toDigits_le_iff (by decide) (by decide)).mpr hm,
      Nat.ofDigitChars_toDigits (by decide) (by decide)⟩
  cases n with
  | ofNat m =>
    obtain ⟨hds, hne, hlength, hvalue⟩ := hdigits m hn
    have hread := (readInteger_digits hds hne hlength).1
    rw [hvalue] at hread
    exact hread
  | negSucc m =>
    obtain ⟨hds, hne, hlength, hvalue⟩ := hdigits (m + 1) hn
    have hread := (readInteger_digits hds hne hlength).2
    rw [hvalue] at hread
    show readInteger? ("-" ++ Nat.repr (m + 1)).toList = some (Int.negSucc m)
    rw [String.toList_append]
    exact hread

theorem natAbs_lt_of_normalPort {scheme port : List Char} {n : Int}
    (hn : normalPort scheme port = .ok (some n)) : n.natAbs < 10 ^ maxDigits := by
  unfold normalPort at hn
  split at hn
  · cases hn
  · split at hn
    · cases hn
    · next m hm =>
      have hsome : (if defaultPort? scheme = some m then none else some m) = some n :=
        Except.ok.inj hn
      split at hsome
      · cases hsome
      · cases hsome
        exact natAbs_lt_of_readInteger hm

/-- The port of a URL as it is written behind its colon. -/
def portText (u : Url) : List Char :=
  match u.port with
  | some n => (toString n).toList
  | none => []

/-- A written port is read back, unless it is the default port of the scheme. -/
theorem normalPort_portText (scheme : List Char) {u : Url}
    (hu : ∀ n, u.port = some n → n.natAbs < 10 ^ maxDigits) :
    normalPort scheme u.portText = .ok (u.port.filter fun n => defaultPort? scheme ≠ some n) := by
  unfold portText
  cases hport : u.port with
  | none => rfl
  | some n =>
    have hread := readInteger_toString (hu n hport)
    have hnonempty : ¬ (toString n).toList.isEmpty = true := by
      intro hempty
      rw [List.isEmpty_iff.mp hempty] at hread
      exact absurd hread nofun
    unfold normalPort
    dsimp only
    rw [if_neg hnonempty, hread, Option.filter_some]
    dsimp only
    by_cases hdefault : defaultPort? scheme = some n
    · rw [if_pos hdefault, if_neg (by simpa using hdefault)]
    · rw [if_neg hdefault, if_pos (by simpa using hdefault)]

end Redial.Url
