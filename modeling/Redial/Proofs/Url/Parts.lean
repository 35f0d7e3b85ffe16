import Redial.Proofs.Cuts
import Redial.Proofs.Outcome
import Redial.Url.Basic

/-! # What the parts of a URL are made of

    The parts of a URL are divided by slashes, question marks, number signs and at signs.
    A host that is read has none of them, in whatever form it is sent: as an address,
    percent-encoded, or as a name beyond ASCII, whose labels are letters, digits and
    hyphens.  It is empty only if nothing was written for it. -/

namespace Redial

namespace Url

/-! ## Section 1: Dividers -/

/-- A character that ends or divides an authority. -/
def isDivider (c : Char) : Bool := c == '/' || c == '?' || c == '#' || c == '@'

/-- A text without dividers. -/
def Undivided (cs : List Char) : Prop := ∀ c ∈ cs, isDivider c = false

theorem Undivided.append {as bs : List Char} (ha : Undivided as) (hb : Undivided bs) :
    Undivided (as ++ bs) := fun c hc => (List.mem_append.mp hc).elim (ha c) (hb c)

theorem Undivided.subset {as bs : List Char} (hb : Undivided bs) (hsub : ∀ c ∈ as, c ∈ bs) :
    Undivided as := fun c hc => hb c (hsub c hc)

/-- What satisfies a test that no divider satisfies is none. -/
theorem not_isDivider {p : Char → Bool} (hp : ['/', '?', '#', '@'].all (fun d => !p d) = true)
    {c : Char} (hc : p c = true) : isDivider c = false := by
  by_contra hdivider
  rw [Bool.not_eq_false, isDivider] at hdivider
  simp only [Bool.or_eq_true, beq_iff_eq] at hdivider
  have hmem : c ∈ ['/', '?', '#', '@'] := by
    rcases hdivider with ((rfl | rfl) | rfl) | rfl <;> simp
  have hnone := List.all_eq_true.mp hp c hmem
  rw [hc] at hnone
  exact absurd hnone Bool.false_ne_true

/-! ## Section 2: Percent-encoding -/

/-- The percent sign and the digits behind it are safe. -/
def SafeSet (safe : Char → Bool) : Prop :=
  safe '%' = true ∧ ∀ n < 16, safe (hexDigit n) = true

theorem safeSet_host : SafeSet hostSafe := by unfold SafeSet; decide

theorem safeSet_userinfo : SafeSet userinfoSafe := by unfold SafeSet; decide

theorem safeSet_path : SafeSet pathSafe := by unfold SafeSet; decide

/-- An encoded text is made of safe characters. -/
theorem safe_of_mem_encode {safe : Char → Bool} (hs : SafeSet safe) {cs : List Char} {c : Char}
    (hc : c ∈ encode safe cs) : safe c = true := by
  obtain ⟨hpercent, hdigits⟩ := hs
  obtain ⟨d, -, hd⟩ := List.mem_flatMap.mp hc
  unfold encodeChar at hd
  split at hd
  · next hsafe => rwa [List.mem_singleton.mp hd]
  · obtain ⟨b, -, hb⟩ := List.mem_flatMap.mp hd
    have hbyte : b.toNat < 256 := UInt8.toNat_lt b
    simp only [encodeByte, List.mem_cons, List.not_mem_nil, or_false] at hb
    rcases hb with rfl | rfl | rfl
    · exact hpercent
    · exact hdigits _ (by omega)
    · exact hdigits _ (by omega)

theorem encodeChar_ne_nil (safe : Char → Bool) (c : Char) : encodeChar safe c ≠ [] := by
  unfold encodeChar
  split
  · exact List.cons_ne_nil _ _
  · intro hnil
    have hempty : String.utf8EncodeChar c = [] := by
      cases hbytes : String.utf8EncodeChar c with
      | nil => rfl
      | cons b bs => simp [hbytes, encodeByte] at hnil
    have hlength := congrArg List.length hempty
    have hpos := Char.utf8Size_pos c
    rw [String.length_utf8EncodeChar] at hlength
    simp only [List.length_nil] at hlength
    omega

theorem encode_eq_nil {safe : Char → Bool} {cs : List Char} : encode safe cs = [] ↔ cs = [] := by
  cases cs with
  | nil => simp
  | cons c cs =>
    refine iff_of_false (fun hnil => ?_) (List.cons_ne_nil c cs)
    rw [encode, List.flatMap_cons, List.append_eq_nil_iff] at hnil
    exact encodeChar_ne_nil safe c hnil.1

/-! ## Section 3: Letters -/

/-- A text whose ASCII characters are small letters, digits and hyphens. -/
def Lettered (cs : List Char) : Prop := ∀ c ∈ cs, c.toNat < 128 → isHostLetter c = true

/-- A text of small letters, digits and hyphens. -/
def Sendable (cs : List Char) : Prop := ∀ c ∈ cs, c.toNat < 128 ∧ isHostLetter c = true

theorem Lettered.subset {as bs : List Char} (hb : Lettered bs) (hsub : ∀ c ∈ as, c ∈ bs) :
    Lettered as := fun c hc => hb c (hsub c hc)

theorem Lettered.append {as bs : List Char} (ha : Lettered as) (hb : Lettered bs) :
    Lettered (as ++ bs) := fun c hc => (List.mem_append.mp hc).elim (ha c) (hb c)

theorem Sendable.append {as bs : List Char} (ha : Sendable as) (hb : Sendable bs) :
    Sendable (as ++ bs) := fun c hc => (List.mem_append.mp hc).elim (ha c) (hb c)

theorem Sendable.lettered {cs : List Char} (hcs : Sendable cs) : Lettered cs :=
  fun c hc _ => (hcs c hc).2

theorem Lettered.sendable {cs : List Char} (hcs : Lettered cs) (hascii : ∀ c ∈ cs, c.toNat < 128) :
    Sendable cs := fun c hc => ⟨hascii c hc, hcs c hc (hascii c hc)⟩

theorem sendable_of_all {cs : List Char}
    (hcs : cs.all (fun c => c.toNat < 128 && isHostLetter c) = true) : Sendable cs := fun c hc => by
  have hboth := List.all_eq_true.mp hcs c hc
  rwa [Bool.and_eq_true, decide_eq_true_eq] at hboth

theorem sendable_hyphen : Sendable ['-'] := sendable_of_all (by decide)

theorem sendable_punycodeMark : Sendable punycodeMark := sendable_of_all (by decide)

/-! ## Section 4: Punycode -/

namespace Punycode

theorem digit_sendable {n : Nat} (hn : n < 36) : Sendable [digit n] := by
  have hall : ∀ n < 36, [digit n].all (fun c => c.toNat < 128 && isHostLetter c) = true := by
    decide
  exact sendable_of_all (hall n hn)

theorem sendable_digitsFrom (bias place n : Nat) : Sendable (digitsFrom bias place n) := by
  induction place, n using digitsFrom.induct bias with
  | case1 place n t hn =>
    have hbounds := threshold_bounds bias place
    rw [digitsFrom, if_pos hn]
    exact digit_sendable (by omega)
  | case2 place n t hn ih =>
    have hbounds := threshold_bounds bias place
    have hmod : (n - threshold bias place) % (36 - threshold bias place)
        < 36 - threshold bias place := Nat.mod_lt _ (by omega)
    rw [digitsFrom, if_neg hn]
    exact Sendable.append (digit_sendable (by omega)) ih

theorem sendable_pass (n : Nat) {p : Progress} (hp : Sendable p.out) (c : Char) :
    Sendable (p.pass n c).out := by
  unfold Progress.pass
  split
  · exact hp
  · split
    · exact hp.append (sendable_digitsFrom _ _ _)
    · exact hp

theorem sendable_writeAll (cs : List Char) (next : Nat) {p : Progress} (hp : Sendable p.out)
    (ns : List Nat) : Sendable (writeAll cs next p ns).out := by
  induction ns generalizing next p with
  | nil => exact hp
  | cons n ns ih =>
    have hpasses : ∀ (ds : List Char) (q : Progress), Sendable q.out →
        Sendable (ds.foldl (Progress.pass n) q).out := by
      intro ds
      induction ds with
      | nil => exact fun q hq => hq
      | cons d ds ihds => exact fun q hq => ihds _ (sendable_pass n hq d)
    exact ih _ (hpasses cs _ hp)

/-- What is written for letters can be sent. -/
theorem sendable_encode {cs : List Char} (hcs : Lettered cs) : Sendable (encode cs) := by
  unfold encode
  refine Sendable.append (Sendable.append ?_ ?_) ?_
  · intro c hc
    obtain ⟨hmem, hascii⟩ := List.mem_filter.mp hc
    have hascii : c.toNat < 128 := of_decide_eq_true hascii
    exact ⟨hascii, hcs c hmem hascii⟩
  · split
    · exact nofun
    · exact sendable_hyphen
  · exact sendable_writeAll cs 128 (fun c hc => absurd hc List.not_mem_nil) _

theorem letter_of_digitValue {c : Char} {d : Nat} (hd : digitValue? c = some d) :
    isHostLetter c = true := by
  unfold digitValue? at hd
  have hrange : c.isLower = true ∨ c.isDigit = true := by
    split at hd
    · next hlower => exact .inl hlower
    · split at hd
      · next hdigit => exact .inr hdigit
      · cases hd
  have hascii : c.toNat < 128 := by
    rcases hrange with hlower | hdigit
    · have hle : c.val ≤ 122 := (Bool.and_eq_true_iff.mp hlower).2 |> of_decide_eq_true
      have : c.val.toNat ≤ 122 := hle
      show c.val.toNat < 128
      omega
    · have hle : c.val ≤ 57 := (Bool.and_eq_true_iff.mp hdigit).2 |> of_decide_eq_true
      have : c.val.toNat ≤ 57 := hle
      show c.val.toNat < 128
      omega
  unfold isHostLetter
  rw [if_pos hascii]
  rcases hrange with hlower | hdigit
  · rw [hlower]
    rfl
  · rw [hdigit, Bool.or_true]
    rfl

/-- The digits of a distance that can be read. -/
theorem lettered_of_readDigits {bias place weight value : Nat} {cs : List Char}
    {r : Nat × List Char} (hr : readDigits? bias place weight value cs = some r)
    (hrest : Lettered r.2) : Lettered cs := by
  induction cs generalizing place weight value with
  | nil => exact nofun
  | cons c rest ih =>
    rw [readDigits?] at hr
    cases hd : digitValue? c with
    | none => simp [hd] at hr
    | some d =>
      simp only [hd, Option.bind_eq_bind, Option.bind_some] at hr
      have htail : Lettered rest := by
        split at hr
        · cases hr
          exact hrest
        · exact ih hr
      exact List.forall_mem_cons.mpr ⟨fun _ => letter_of_digitValue hd, htail⟩

/-- One step of reading: nothing is left, or one character is put into what is there. -/
theorem insertAll_cases {out : List Char} {bias n start : Nat} {isFirst : Bool}
    {cs result : List Char} (hr : insertAll? out bias n start isFirst cs = some result) :
    (cs = [] ∧ result = out) ∨
      ∃ distance rest place c bias' n',
        readDigits? bias 1 1 0 cs = some (distance, rest) ∧
        insertAll? (out.take place ++ c :: out.drop place) bias' n' (place + 1) false rest
          = some result := by
  rw [insertAll?] at hr
  split at hr
  · next hempty =>
    cases hr
    exact .inl ⟨List.isEmpty_iff.mp hempty, rfl⟩
  · split at hr
    · exact absurd hr (Option.some_ne_none result).symm
    · next distance rest hread =>
      dsimp only at hr
      split at hr
      · exact absurd hr (Option.some_ne_none result).symm
      · exact .inr ⟨distance, rest, _, _, _, _, hread, hr⟩

/-- A text that is read as letters is written in letters. -/
theorem lettered_of_insertAll {out : List Char} {bias n start : Nat} {isFirst : Bool}
    {cs result : List Char} (hr : insertAll? out bias n start isFirst cs = some result)
    (hresult : Lettered result) : Lettered out ∧ Lettered cs := by
  -- every character that is read takes at least one digit
  induction hlength : cs.length using Nat.strongRecOn
    generalizing out bias n start isFirst cs with
  | ind length ih =>
    rcases insertAll_cases hr with ⟨rfl, rfl⟩ | ⟨distance, rest, place, c, bias', n', hread, hrest⟩
    · exact ⟨hresult, nofun⟩
    · have hshorter : rest.length < length := by
        rw [← hlength]
        exact length_lt_of_readDigits? hread
      obtain ⟨hout, hdigits⟩ := ih rest.length hshorter hrest rfl
      refine ⟨hout.subset fun d hd => ?_, lettered_of_readDigits hread hdigits⟩
      rw [← List.take_append_drop place out] at hd
      rcases List.mem_append.mp hd with hbefore | hafter
      · exact List.mem_append_left _ hbefore
      · exact List.mem_append_right _ (List.mem_cons_of_mem c hafter)

theorem lettered_of_decode {cs result : List Char} (hr : decode? cs = some result)
    (hresult : Lettered result) : Lettered cs := by
  unfold decode? at hr
  rcases Text.cutLast_cases '-' cs with ⟨-, hcut⟩ | ⟨ascii, distances, hsplit, -, hcut⟩
  · rw [hcut] at hr
    exact (lettered_of_insertAll hr hresult).2
  · rw [hcut] at hr
    obtain ⟨hascii, hdistances⟩ := lettered_of_insertAll hr hresult
    rw [hsplit]
    exact hascii.append (sendable_hyphen.lettered.append hdistances)

end Punycode

/-! ## Section 5: Names -/

/-- In ASCII only letters are allowed in a label, in any surroundings. -/
theorem letter_of_allowed {c : Char} (hascii : c.toNat < 128)
    (hc : isHostLetter c = true ∨ isJoiner c = true ∨
      ∃ before after, fits? before c after = some true) : isHostLetter c = true := by
  have hne : ∀ d : Char, 128 ≤ d.toNat → c ≠ d := by
    rintro d hd rfl
    omega
  have hjoiner : isJoiner c = false := by
    unfold isJoiner
    rw [Bool.or_eq_false_iff, decide_eq_false_iff_not, decide_eq_false_iff_not]
    exact ⟨hne _ (by decide), hne _ (by decide)⟩
  have hfits : ∀ before after, fits? before c after = none := by
    intro before after
    have harabic : isArabicDigit c = false ∧ isEasternDigit c = false :=
      Text.ascii_forall (P := fun c => isArabicDigit c = false ∧ isEasternDigit c = false)
        (by decide) hascii
    unfold fits?
    rw [if_neg (hne _ (by decide)), if_neg (hne _ (by decide)), if_neg, if_neg (hne _ (by decide)),
      harabic.1, harabic.2]
    · rfl
    · simp only [Bool.or_eq_true, decide_eq_true_eq, not_or]
      exact ⟨hne _ (by decide), hne _ (by decide)⟩
  rcases hc with hletter | hc | ⟨before, after, hc⟩
  · exact hletter
  · rw [hjoiner] at hc
    cases hc
  · rw [hfits] at hc
    cases hc

theorem lettered_of_checkLetters {label : String} {before cs : List Char}
    (hc : checkLetters label before cs = .ok ()) : Lettered cs := by
  induction cs generalizing before with
  | nil => exact nofun
  | cons c after ih =>
    rw [checkLetters] at hc
    have hstep : (isHostLetter c = true ∨ isJoiner c = true ∨
        ∃ before after, fits? before c after = some true) ∧
          checkLetters label (c :: before) after = .ok () := by
      split at hc
      · next hletter => exact ⟨.inl hletter, hc⟩
      · split at hc
        · next hjoiner =>
          split at hc
          · exact ⟨.inr (.inl hjoiner), hc⟩
          · exact absurd hc nofun
        · split at hc
          · next hfits => exact ⟨.inr (.inr ⟨_, _, hfits⟩), hc⟩
          · exact absurd hc nofun
          · exact absurd hc nofun
    exact List.forall_mem_cons.mpr ⟨fun hascii => letter_of_allowed hascii hstep.1, ih hstep.2⟩

theorem of_checkLabel {label : List Char} (hc : checkLabel label = .ok ()) :
    label ≠ [] ∧ Lettered label := by
  unfold checkLabel at hc
  split at hc
  · exact absurd hc nofun
  · next hempty =>
    refine ⟨fun hnil => hempty (by rw [hnil]; rfl), ?_⟩
    split at hc
    · exact absurd hc nofun
    · split at hc
      · exact absurd hc nofun
      · split at hc
        · exact absurd hc nofun
        · obtain ⟨_, hletters, -⟩ := ok_of_bind hc
          exact lettered_of_checkLetters hletters

theorem of_readLabel {label result : List Char} (hr : readLabel label = .ok result) :
    label ≠ [] ∧ Lettered label := by
  unfold readLabel at hr
  split at hr
  · obtain ⟨_, hcheck, -⟩ := ok_of_map hr
    exact of_checkLabel hcheck
  · next hmark =>
    have hbegin : punycodeMark <+: label := by simpa using hmark
    obtain ⟨code, rfl⟩ := hbegin
    refine ⟨by simp [punycodeMark], ?_⟩
    rw [List.drop_left] at hr
    dsimp only at hr
    split at hr
    · exact absurd hr nofun
    · split at hr
      · exact absurd hr nofun
      · split at hr
        · exact absurd hr nofun
        · next decoded hdecode =>
          obtain ⟨_, hcheck, -⟩ := ok_of_map hr
          have hcode : Lettered code :=
            Punycode.lettered_of_decode hdecode (of_checkLabel hcheck).2
          exact sendable_punycodeMark.lettered.append hcode

/-- A label that is sent is not empty and has letters only. -/
theorem of_sentLabel {label sent : List Char} (hs : sentLabel label = .ok sent) :
    sent ≠ [] ∧ Sendable sent := by
  have hfit : ∀ {l : List Char}, fitLabel l = .ok sent → sent = l := by
    intro l hl
    unfold fitLabel at hl
    split at hl
    · exact absurd hl nofun
    · exact (Except.ok.inj hl).symm
  unfold sentLabel at hs
  split at hs
  · next hall =>
    obtain ⟨_, hread, hlabel⟩ := ok_of_bind hs
    rw [hfit hlabel]
    obtain ⟨hnonempty, hletters⟩ := of_readLabel hread
    exact ⟨hnonempty, hletters.sendable fun c hc => of_decide_eq_true (List.all_eq_true.mp hall c hc)⟩
  · obtain ⟨_, hcheck, hlabel⟩ := ok_of_bind hs
    rw [hfit hlabel]
    refine ⟨by simp [punycodeMark], ?_⟩
    exact sendable_punycodeMark.append (Punycode.sendable_encode (of_checkLabel hcheck).2)

theorem of_sentLabels {labels sent : List (List Char)} (hs : labels.mapM sentLabel = .ok sent) :
    (sent = [] → labels = []) ∧ ∀ label ∈ sent, label ≠ [] ∧ Sendable label := by
  induction labels generalizing sent with
  | nil =>
    cases hs
    exact ⟨fun _ => rfl, nofun⟩
  | cons label labels ih =>
    rw [List.mapM_cons] at hs
    obtain ⟨first, hfirst, hs⟩ := ok_of_bind hs
    obtain ⟨rest, hrest, hs⟩ := ok_of_bind hs
    cases hs
    exact ⟨nofun, List.forall_mem_cons.mpr ⟨of_sentLabel hfirst, (ih hrest).2⟩⟩

/-- What pieces are joined to has their characters and the separator. -/
theorem mem_join {sep c : Char} {ps : List (List Char)} (hc : c ∈ Text.join sep ps) :
    c = sep ∨ ∃ p ∈ ps, c ∈ p := by
  induction ps with
  | nil => exact absurd hc List.not_mem_nil
  | cons p ps ih =>
    by_cases hps : ps = []
    · subst hps
      exact .inr ⟨p, List.mem_singleton_self p, hc⟩
    · rw [Text.join_cons_of_ne_nil sep p hps] at hc
      rcases List.mem_append.mp hc with hfirst | hrest
      · exact .inr ⟨p, List.mem_cons_self, hfirst⟩
      · rcases List.mem_cons.mp hrest with hsep | hrest
        · exact .inl hsep
        · exact (ih hrest).imp_right fun ⟨q, hq, hmem⟩ => ⟨q, List.mem_cons_of_mem p hq, hmem⟩

theorem join_ne_nil {ps : List (List Char)} (hps : ps ≠ []) (hall : ∀ p ∈ ps, p ≠ []) :
    Text.join '.' ps ≠ [] := by
  match ps, hps with
  | [p], _ => exact hall p (List.mem_singleton_self p)
  | p :: q :: qs, _ => simp [Text.join]

/-- A name that does not end with a point has labels. -/
theorem labelsOf_ne_nil {host : List Char} (hended : (labelsOf host).2 = false) :
    (labelsOf host).1 ≠ [] := by
  unfold labelsOf at hended ⊢
  dsimp only at hended ⊢
  split at hended
  · exact absurd hended nofun
  · next hlast =>
    rw [if_neg hlast]
    exact Text.pieces_ne_nil '.' _

/-- A host name that is sent is not empty and has letters and points only. -/
theorem of_sentName {host sent : List Char} (hs : sentName host = .ok sent) :
    sent ≠ [] ∧ ∀ c ∈ sent, c = '.' ∨ c.toNat < 128 ∧ isHostLetter c = true := by
  unfold sentName at hs
  obtain ⟨l, hl, hended⟩ : ∃ l, labelsOf (Text.lower (String.ofList host)).toList = l ∧
      (l.2 = false → l.1 ≠ []) := ⟨_, rfl, labelsOf_ne_nil⟩
  rw [hl] at hs
  obtain ⟨labels, isEnded⟩ := l
  obtain ⟨sentLabels, hlabels, hname⟩ := ok_of_bind hs
  obtain ⟨hempty, hall⟩ := of_sentLabels hlabels
  have hjoin : ∀ c ∈ Text.join '.' sentLabels,
      c = '.' ∨ c.toNat < 128 ∧ isHostLetter c = true := fun c hc =>
    (mem_join hc).imp_right fun ⟨label, hlabel, hmem⟩ => (hall label hlabel).2 c hmem
  dsimp only at hname
  split at hname
  · exact absurd hname nofun
  · cases Except.ok.inj hname
    cases isEnded with
    | true =>
      refine ⟨List.append_ne_nil_of_right_ne_nil _ (List.cons_ne_nil _ _), fun c hc => ?_⟩
      rcases List.mem_append.mp hc with hc | hc
      · exact hjoin c hc
      · exact .inl (List.mem_singleton.mp hc)
    | false =>
      exact ⟨join_ne_nil (fun hnil => hended rfl (hempty hnil)) (fun p hp => (hall p hp).1), hjoin⟩

/-! ## Section 6: Hosts and ports -/

/-- The ways in which a host is brought into its sent form. -/
inductive HostForm (host : List Char) : List Char → Prop where
  | absent (empty : host = []) : HostForm host []
  /-- An address of four numbers is sent as it is. -/
  | numbers (nonempty : host ≠ []) (digits : looksLikeIPv4 host = true) : HostForm host host
  /-- An address between brackets is sent without them. -/
  | address {inner : List Char} (nonempty : host ≠ []) (address : isIPv6 inner = true)
      (within : ∀ c ∈ inner, c ∈ host) : HostForm host inner
  /-- A name in ASCII is lower-cased before it is encoded. -/
  | ascii (nonempty : host ≠ []) : HostForm host (encode hostSafe (host.map Char.toLower))
  | name {sent : List Char} (nonempty : host ≠ []) (converted : sentName host = .ok sent) :
      HostForm host sent

theorem form_of_normalHost {host normal : List Char} (hn : normalHost host = .ok normal) :
    HostForm host normal := by
  unfold normalHost at hn
  split at hn
  · next hempty =>
    cases hn
    exact .absent (List.isEmpty_iff.mp hempty)
  · next hempty =>
    rw [List.isEmpty_iff] at hempty
    split at hn
    · next hdigits =>
      split at hn
      · cases hn
        exact .numbers hempty hdigits
      · exact absurd hn nofun
    · split at hn
      · dsimp only at hn
        split at hn
        · next haddress =>
          cases hn
          exact .address hempty haddress fun c hc =>
            List.mem_of_mem_drop (List.dropLast_subset _ hc)
        · exact absurd hn nofun
      · split at hn
        · cases hn
          exact .ascii hempty
        · split at hn
          · next name hname =>
            cases hn
            exact .name hempty hname
          · exact absurd hn nofun

/-- A host in its sent form is empty only if none was written, and has no divider that
    was not written. -/
theorem of_normalHost {host normal : List Char} (hn : normalHost host = .ok normal) :
    (normal = [] ↔ host = []) ∧ (Undivided host → Undivided normal) := by
  cases form_of_normalHost hn with
  | absent hempty => exact ⟨iff_of_true rfl hempty, fun _ => nofun⟩
  | numbers => exact ⟨Iff.rfl, id⟩
  | address hempty haddress hwithin =>
    refine ⟨iff_of_false (fun hnil => ?_) hempty, fun hhost => hhost.subset hwithin⟩
    rw [hnil] at haddress
    exact absurd haddress (by decide)
  | ascii hempty =>
    refine ⟨iff_of_false (fun hnil => ?_) hempty, fun _ c hc => ?_⟩
    · rw [encode_eq_nil, List.map_eq_nil_iff] at hnil
      exact hempty hnil
    · exact not_isDivider (p := hostSafe) (by decide) (safe_of_mem_encode safeSet_host hc)
  | name hempty hname =>
    obtain ⟨hnonempty, hletters⟩ := of_sentName hname
    refine ⟨iff_of_false hnonempty hempty, fun _ c hc => ?_⟩
    rcases hletters c hc with rfl | ⟨-, hletter⟩
    · decide
    · exact not_isDivider (p := isHostLetter) (by decide) hletter

/-- A number is written in digits, behind a sign if it has one. -/
theorem mem_toString {n : Int} {c : Char} (hc : c ∈ (toString n).toList) :
    c = '-' ∨ c.isDigit = true := by
  have hdigits : ∀ m : Nat, ∀ c ∈ (Nat.repr m).toList, c.isDigit = true := by
    intro m c hc
    rw [Nat.repr, String.toList_ofList] at hc
    exact Nat.isDigit_of_mem_toDigits (by decide) (by decide) hc
  cases n with
  | ofNat m => exact .inr (hdigits m c hc)
  | negSucc m =>
    have hsign : c ∈ ("-" ++ Nat.repr (m + 1)).toList := hc
    rw [String.toList_append] at hsign
    rcases List.mem_append.mp hsign with hminus | hrest
    · exact .inl (List.mem_singleton.mp hminus)
    · exact .inr (hdigits (m + 1) c hrest)

/-- A port as it is written. -/
theorem undivided_port (n : Int) : Undivided (toString n).toList := by
  intro c hc
  rcases mem_toString hc with rfl | hdigit
  · decide
  · exact not_isDivider (p := Char.isDigit) (by decide) hdigit

end Url

end Redial
