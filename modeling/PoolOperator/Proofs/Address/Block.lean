import PoolOperator.Address.Block
import PoolOperator.Proofs.Address.Ip
import PoolOperator.Proofs.Text.Numeral

/-!
# How blocks of addresses are written

A block is written as an address, as an address, a slash and a prefix length that the address has
room for, or as an address, a dash and an address of the same family that is not smaller. Blanks may
stand around the separator and around the whole text. Reading a text finds the block that it is
written for, and fails on every other text.
-/

namespace PoolOperator.AddressBlock

open Text

variable {cs before after : List Char} {text : String} {ip a b : IpAddress} {block : AddressBlock}

/-- The texts of a block, without blanks around them. -/
inductive Written : List Char → AddressBlock → Prop
  | single {cs : List Char} {ip : IpAddress} (h : IpAddress.parse? cs = some ip) :
      Written cs (.single ip)
  | network {address before after digits : List Char} {ip : IpAddress} {n : Nat}
      (haddress : IpAddress.parse? address = some ip) (hbefore : allBlank before = true)
      (hafter : allBlank after = true) (hlength : Numeral digits n) (hle : n ≤ ip.width) :
      Written (address ++ before ++ '/' :: (after ++ digits)) (.network ip n)
  | range {first before after last : List Char} {a b : IpAddress}
      (hfirst : IpAddress.parse? first = some a) (hbefore : allBlank before = true)
      (hafter : allBlank after = true) (hlast : IpAddress.parse? last = some b)
      (hfamily : a.isV4 = b.isV4) (hle : a.toNat ≤ b.toNat) :
      Written (first ++ before ++ '-' :: (after ++ last)) (.range a b)

/-! ## The parts -/

theorem width_le_maxByte (ip : IpAddress) : ip.width ≤ maxByte := by
  cases ip with
  | v4 bits => exact show 32 ≤ maxByte by decide
  | v6 bits => exact show 128 ≤ maxByte by decide

theorem parseIp_eq_ok_iff : parseIp cs = .ok ip ↔ IpAddress.parse? (trim cs) = some ip := by
  rw [parseIp]
  cases IpAddress.parse? (trim cs) with
  | none => exact iff_of_false nofun nofun
  | some found => rw [Except.ok.injEq, Option.some.injEq]

theorem parseNetwork_eq_ok_iff :
    parseNetwork before after = .ok block ↔
      ∃ ip n, parseIp before = .ok ip ∧ Numeral (trim after) n ∧ n ≤ ip.width ∧
        block = .network ip n := by
  cases hip : parseIp before with
  | error e =>
    simp only [parseNetwork, hip, bind, Except.bind]
    exact iff_of_false nofun (by rintro ⟨ip, n, h, -⟩; cases h)
  | ok ip =>
    simp only [parseNetwork, hip, bind, Except.bind]
    constructor
    · intro h
      split at h
      · cases h
      · rename_i n hread
        split at h
        · cases h
        · rename_i hle
          cases h
          exact ⟨ip, n, rfl, (readNumeral_eq_ok_iff.mp hread).1, Nat.not_lt.mp hle, rfl⟩
    · rintro ⟨_, n, ⟨⟩, hnumeral, hle, rfl⟩
      have hread : readNumeral maxByte (trim after) = .ok n :=
        readNumeral_eq_ok_iff.mpr ⟨hnumeral, Nat.le_trans hle (width_le_maxByte ip)⟩
      rw [hread]
      exact if_neg (Nat.not_lt.mpr hle)

theorem parseRange_eq_ok_iff :
    parseRange before after = .ok block ↔
      ∃ a b, parseIp before = .ok a ∧ parseIp after = .ok b ∧ a.isV4 = b.isV4 ∧
        a.toNat ≤ b.toNat ∧ block = .range a b := by
  cases ha : parseIp before with
  | error e =>
    simp only [parseRange, ha, bind, Except.bind]
    exact iff_of_false nofun (by rintro ⟨a, b, h, -⟩; cases h)
  | ok a =>
    cases hb : parseIp after with
    | error e =>
      simp only [parseRange, ha, hb, bind, Except.bind]
      exact iff_of_false nofun (by rintro ⟨a, b, -, h, -⟩; cases h)
    | ok b =>
      simp only [parseRange, ha, hb, bind, Except.bind]
      constructor
      · intro h
        split at h
        · cases h
        · rename_i hfamily
          split at h
          · cases h
          · rename_i hle
            cases h
            exact ⟨a, b, rfl, rfl, not_not.mp hfamily, Nat.not_lt.mp hle, rfl⟩
      · rintro ⟨_, _, ⟨⟩, ⟨⟩, hfamily, hle, rfl⟩
        rw [if_neg (not_not.mpr hfamily), if_neg (Nat.not_lt.mpr hle)]

/-! ## Separators -/

/-- The blanks around a separator are all that trimming takes from the two sides of it. -/
theorem exists_blanks {sep : Char} (h : IsTrimmed (before ++ sep :: after)) :
    ∃ left right, allBlank left = true ∧ allBlank right = true ∧
      before = trim before ++ left ∧ after = right ++ trim after := by
  obtain ⟨left, hleft, hbefore⟩ := h.left_eq_append (isPadded_trim before)
  rw [List.append_cons] at h
  obtain ⟨right, hright, hafter⟩ := h.right_eq_append (isPadded_trim after)
  exact ⟨left, right, hleft, hright, hbefore, hafter⟩

/-- An address with blanks behind it is read as the address. -/
theorem parseIp_append {address : List Char} (h : IpAddress.parse? address = some ip)
    (hafter : allBlank after = true) : parseIp (address ++ after) = .ok ip := by
  have htrim : trim (address ++ after) = address :=
    trim_eq_iff.mpr ⟨IpAddress.isTrimmed_of_parse? h, [], after, rfl, hafter, rfl⟩
  rw [parseIp_eq_ok_iff, htrim, h]

theorem parseIp_blank_append {address : List Char} (h : IpAddress.parse? address = some ip)
    (hbefore : allBlank before = true) : parseIp (before ++ address) = .ok ip := by
  have htrim : trim (before ++ address) = address :=
    trim_eq_iff.mpr
      ⟨IpAddress.isTrimmed_of_parse? h, before, [], hbefore, rfl, (List.append_nil _).symm⟩
  rw [parseIp_eq_ok_iff, htrim, h]

theorem notMem_of_allBlank {sep : Char} (hsep : isBlank sep = false) (h : allBlank cs = true) :
    sep ∉ cs := by
  intro hmem
  rw [isBlank_of_allBlank h hmem] at hsep
  cases hsep

/-- Neither an address nor the blanks behind it have a separator in them. -/
theorem notMem_append {sep : Char} (hchar : IpAddress.isAddressChar sep = false)
    (hblank : isBlank sep = false) {address : List Char}
    (h : IpAddress.parse? address = some ip) (hafter : allBlank after = true) :
    sep ∉ address ++ after :=
  List.not_mem_append (IpAddress.notMem_of_parse? hchar h) (notMem_of_allBlank hblank hafter)

/-! ## The whole text -/

/-- There are no blanks around the texts of a block. -/
theorem Written.isTrimmed (h : Written cs block) : IsTrimmed cs := by
  cases h with
  | single h => exact IpAddress.isTrimmed_of_parse? h
  | @network address before after digits ip n haddress hbefore hafter hlength hle =>
    have htrimmed := (IpAddress.isTrimmed_of_parse? haddress).append
      (IpAddress.ne_nil_of_parse? haddress) hlength.isTrimmed hlength.ne_nil
      (before ++ '/' :: after)
    simpa only [List.append_assoc, List.cons_append] using htrimmed
  | @range first before after last a b hfirst hbefore hafter hlast hfamily hle =>
    have htrimmed := (IpAddress.isTrimmed_of_parse? hfirst).append
      (IpAddress.ne_nil_of_parse? hfirst) (IpAddress.isTrimmed_of_parse? hlast)
      (IpAddress.ne_nil_of_parse? hlast) (before ++ '-' :: after)
    simpa only [List.append_assoc, List.cons_append] using htrimmed

/-- What is read from a text is what it is written for, but for blanks around it. -/
theorem written_of_parse (h : parse text = .ok block) : Written (trim text.toList) block := by
  have htrimmed := isTrimmed_trim text.toList
  rw [parse] at h
  generalize trim text.toList = cs at h htrimmed
  split at h
  · cases h
  · split at h
    · rename_i address length hslash
      obtain ⟨rfl, -⟩ := splitFirst?_eq_some.mp hslash
      obtain ⟨ip, n, hip, hlength, hle, rfl⟩ := parseNetwork_eq_ok_iff.mp h
      obtain ⟨left, right, hleft, hright, haddress, hdigits⟩ := exists_blanks htrimmed
      rw [haddress, hdigits]
      exact .network (parseIp_eq_ok_iff.mp hip) hleft hright hlength hle
    · split at h
      · rename_i first last hdash
        obtain ⟨rfl, -⟩ := splitFirst?_eq_some.mp hdash
        obtain ⟨a, b, ha, hb, hfamily, hle, rfl⟩ := parseRange_eq_ok_iff.mp h
        obtain ⟨left, right, hleft, hright, hfirst, hlast⟩ := exists_blanks htrimmed
        rw [hfirst, hlast]
        exact .range (parseIp_eq_ok_iff.mp ha) hleft hright (parseIp_eq_ok_iff.mp hb) hfamily hle
      · cases hip : parseIp cs with
        | error e =>
          rw [hip] at h
          cases h
        | ok ip =>
          rw [hip] at h
          cases h
          rw [parseIp_eq_ok_iff, trim_of_isTrimmed htrimmed] at hip
          exact .single hip

/-- A text that a block is written as is read as that block. -/
theorem Written.parse_eq (h : Written (trim text.toList) block) : parse text = .ok block := by
  have hslash : IpAddress.isAddressChar '/' = false := by decide
  have hdash : IpAddress.isAddressChar '-' = false := by decide
  rw [parse]
  generalize trim text.toList = cs at h ⊢
  cases h with
  | @single _ ip h =>
    have hip : parseIp cs = .ok ip := by
      rw [parseIp_eq_ok_iff, trim_of_isTrimmed (IpAddress.isTrimmed_of_parse? h), h]
    rw [if_neg (mt List.isEmpty_iff.mp (IpAddress.ne_nil_of_parse? h)),
      splitFirst?_eq_none (IpAddress.notMem_of_parse? hslash h)]
    dsimp only
    rw [splitFirst?_eq_none (IpAddress.notMem_of_parse? hdash h)]
    dsimp only
    rw [hip]
    rfl
  | @network address before after digits ip n haddress hbefore hafter hlength hle =>
    have hlengthTrim : trim (after ++ digits) = digits :=
      trim_eq_iff.mpr ⟨hlength.isTrimmed, after, [], hafter, rfl, (List.append_nil _).symm⟩
    rw [if_neg (by simp), splitFirst?_eq_some.mpr
      ⟨rfl, notMem_append hslash (by decide) haddress hbefore⟩]
    exact parseNetwork_eq_ok_iff.mpr
      ⟨ip, n, parseIp_append haddress hbefore, by rwa [hlengthTrim], hle, rfl⟩
  | @range first before after last a b hfirst hbefore hafter hlast hfamily hle =>
    -- a slash is looked for first, in all of the text
    have hnoSlash : '/' ∉ first ++ before ++ '-' :: (after ++ last) := by
      refine List.not_mem_append (notMem_append hslash (by decide) hfirst hbefore) ?_
      refine List.not_mem_cons_of_ne_of_not_mem (by decide) (List.not_mem_append ?_ ?_)
      · exact notMem_of_allBlank (by decide) hafter
      · exact IpAddress.notMem_of_parse? hslash hlast
    rw [if_neg (by simp), splitFirst?_eq_none hnoSlash]
    dsimp only
    rw [splitFirst?_eq_some.mpr ⟨rfl, notMem_append hdash (by decide) hfirst hbefore⟩]
    exact parseRange_eq_ok_iff.mpr
      ⟨a, b, parseIp_append hfirst hbefore, parseIp_blank_append hlast hafter, hfamily, hle, rfl⟩

/-- **Reading a block** finds the block that a text is written for, but for blanks around it, and
fails on every other text. -/
theorem parse_eq_ok_iff :
    parse text = .ok block ↔ ∃ t, IsPadded t text.toList ∧ Written t block := by
  constructor
  · intro h
    exact ⟨trim text.toList, isPadded_trim text.toList, written_of_parse h⟩
  · rintro ⟨t, hpadded, hwritten⟩
    have htrim : trim text.toList = t := trim_eq_iff.mpr ⟨hwritten.isTrimmed, hpadded⟩
    exact Written.parse_eq (by rwa [htrim])

example : parse " 10.0.0.0\t/ +024" = .ok (.network (.v4 0x0A000000#32) 24) := by decide +kernel

example : parse "10.0.0.1-::ffff:10.0.0.2" = .error .mixedFamilies := by decide +kernel

end PoolOperator.AddressBlock
