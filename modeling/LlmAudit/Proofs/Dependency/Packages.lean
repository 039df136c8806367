import LlmAudit.Dependency.Package
import LlmAudit.Number.Based
import LlmAudit.Proofs.Text.Stripping
import LlmAudit.Proofs.Text.Utf8

/-!
# Names and addresses of packages

The subject is the sanity check of Section 15 of the specification: names that fail it "are treated
as missing without a request".

The names of packages have a grammar of their own (`Package.IsName`): a bare name, or a scope and a
bare name. The test that stands before a registry lets the names of the grammar pass, and beside
them the same names with a line feed behind (`isSaneName_iff`). Nothing else is ever asked for.

A name inside an address can be read back byte by byte (`percentDecode`), so packages that are
asked for at one address are one package (`address_injective`).

## Main statements

* `Package.sane_names_exact` — which names pass, what is asked for them, and that different names
  have different addresses.
-/

namespace LlmAudit

namespace Package

variable {s t scope bare : List Char} {c : Char}

/-! ### The grammar of names -/

/-- A character of a name: an ASCII letter, an ASCII digit, a dot, an underscore or a hyphen. -/
def NameChar (c : Char) : Prop :=
  'a' ≤ c ∧ c ≤ 'z' ∨ 'A' ≤ c ∧ c ≤ 'Z' ∨ '0' ≤ c ∧ c ≤ '9' ∨ c = '.' ∨ c = '_' ∨ c = '-'

/-- A name without a scope. -/
structure IsBare (s : List Char) : Prop where
  /-- It has a character. -/
  one_le_length : 1 ≤ s.length
  /-- It has no more than 214 characters. -/
  length_le : s.length ≤ 214
  /-- Its characters are those of names. -/
  chars : ∀ c ∈ s, NameChar c

/-- The names of packages. -/
inductive IsName : List Char → Prop where
  /-- A bare name. -/
  | bare {s : List Char} (hs : IsBare s) : IsName s
  /-- A bare name behind a scope. -/
  | inScope {scope s : List Char} (hne : scope ≠ []) (hscope : ∀ c ∈ scope, NameChar c)
      (hs : IsBare s) : IsName ('@' :: (scope ++ '/' :: s))

theorem isNameChar_iff : isNameChar c = true ↔ NameChar c := by
  have hval : c.val.toNat = c.toNat := rfl
  rw [isNameChar, Text.isAsciiNameChar, NameChar]
  delta Char.isAlphanum Char.isAlpha Char.isUpper Char.isLower Char.isDigit
  simp only [ge_iff_le, Char.le_def, UInt32.le_iff_toNat_le, hval, Bool.or_eq_true,
    Bool.and_eq_true, decide_eq_true_eq, Char.reduceVal, UInt32.reduceToNat, List.contains_iff_mem,
    List.mem_cons, List.not_mem_nil, or_false]
  tauto

theorem isBareName_iff : isBareName s = true ↔ IsBare s := by
  simp only [isBareName, Bool.and_eq_true, Bool.not_eq_true', List.isEmpty_eq_false_iff,
    decide_eq_true_eq, List.all_eq_true, isNameChar_iff]
  constructor
  · rintro ⟨⟨hne, hlength⟩, hchars⟩
    exact ⟨List.length_pos_iff.2 hne, hlength, hchars⟩
  · rintro ⟨hpos, hlength, hchars⟩
    exact ⟨⟨List.length_pos_iff.1 hpos, hlength⟩, hchars⟩

theorem NameChar.ne_feed (h : NameChar c) : c ≠ '\n' := by
  rintro rfl
  exact absurd (isNameChar_iff.2 h) (by decide)

theorem not_nameChar_at : ¬ NameChar '@' := by
  intro h
  exact absurd (isNameChar_iff.2 h) (by decide)

/-- A scope ends at the first slash. -/
theorem run_scope (h : ∀ c ∈ scope, NameChar c) (s : List Char) :
    Text.Run isNameChar (scope ++ '/' :: s) scope ('/' :: s) := by
  refine ⟨rfl, fun c hc => isNameChar_iff.2 (h c hc), ?_⟩
  intro c hc
  obtain rfl : '/' = c := by simpa using hc
  decide

/-- Behind the sign of a scope come the scope, a slash and a bare name. -/
theorem isScopedName_at (s : List Char) :
    isScopedName ('@' :: s) = true ↔
      ∃ scope bare, scope ≠ [] ∧ (∀ c ∈ scope, NameChar c) ∧ IsBare bare ∧
        s = scope ++ '/' :: bare := by
  constructor
  · intro h
    unfold isScopedName at h
    split at h
    · rename_i rest hs
      obtain rfl := (List.cons.inj hs).2
      dsimp only at h
      split at h
      · rename_i bare hrest
        obtain ⟨hsplit, hall, -⟩ := Text.run_iff.2 ⟨rfl, hrest⟩
        simp only [Bool.and_eq_true, Bool.not_eq_true', List.isEmpty_eq_false_iff,
          isBareName_iff] at h
        exact ⟨_, bare, h.1, fun c hc => isNameChar_iff.1 (hall c hc), h.2, hsplit⟩
      · cases h
    · rename_i hother
      exact absurd rfl (hother s)
  · rintro ⟨scope, bare, hne, hscope, hbare, rfl⟩
    obtain ⟨htake, hdrop⟩ := Text.run_iff.1 (run_scope hscope bare)
    simp [isScopedName, htake, hdrop, hne, isBareName_iff.2 hbare]

theorem isScopedName_of_ne (h : s.head? ≠ some '@') : isScopedName s = isBareName s := by
  unfold isScopedName
  split
  · exact absurd rfl h
  · rfl

/-- The names that pass without a line feed behind are those of the grammar. -/
theorem isScopedName_iff : isScopedName s = true ↔ IsName s := by
  by_cases hat : s.head? = some '@'
  · obtain ⟨rest, rfl⟩ := List.head?_eq_some_iff.1 hat
    rw [isScopedName_at]
    constructor
    · rintro ⟨scope, bare, hne, hscope, hbare, rfl⟩
      exact .inScope hne hscope hbare
    · intro h
      cases h with
      | bare hs => exact absurd (hs.chars '@' List.mem_cons_self) not_nameChar_at
      | inScope hne hscope hs => exact ⟨_, _, hne, hscope, hs, rfl⟩
  · rw [isScopedName_of_ne hat, isBareName_iff]
    constructor
    · exact .bare
    · intro h
      cases h with
      | bare hs => exact hs
      | inScope => exact absurd rfl hat

/-- No name holds a line feed. -/
theorem IsName.feed_notMem (h : IsName s) : '\n' ∉ s := by
  intro hmem
  cases h with
  | bare hs => exact (hs.chars _ hmem).ne_feed rfl
  | inScope hne hscope hs =>
    simp only [List.mem_cons, List.mem_append, Char.reduceEq, false_or] at hmem
    rcases hmem with hmem | hmem
    · exact (hscope _ hmem).ne_feed rfl
    · exact (hs.chars _ hmem).ne_feed rfl

/-- A name of the grammar with a line feed behind. -/
def FeedBehind (name : String) : Prop :=
  ∃ s, IsName s ∧ name.toList = s ++ ['\n']

/-- What has a line feed behind is no name itself. -/
theorem FeedBehind.not_isName {name : String} (h : FeedBehind name) : ¬ IsName name.toList := by
  obtain ⟨s, -, hs⟩ := h
  intro hname
  refine hname.feed_notMem ?_
  simp [hs]

/-- What passes is a name, or a name with a line feed behind. -/
theorem isSaneName_iff {name : String} :
    isSaneName name = true ↔ IsName name.toList ∨ FeedBehind name := by
  simp only [isSaneName, Bool.or_eq_true, Bool.and_eq_true, beq_iff_eq, isScopedName_iff, FeedBehind]
  refine or_congr_right ?_
  constructor
  · rintro ⟨hlast, hname⟩
    exact ⟨_, hname, (List.dropLast_append_getLast? _ hlast).symm⟩
  · rintro ⟨s, hname, hs⟩
    simp [hs, hname]

/-! ### Reading addresses back -/

/-- The bytes that a text inside an address stands for. -/
def percentDecode (s : List Char) : List UInt8 :=
  match s with
  | [] => []
  | c :: rest =>
    if c = '%' then
      match rest with
      | a :: b :: more => UInt8.ofNat (Based.valueOf 16 [a, b]) :: percentDecode more
      | _ => []
    else UInt8.ofNat c.toNat :: percentDecode rest

theorem percentDecode_of_ne (h : c ≠ '%') (s : List Char) :
    percentDecode (c :: s) = UInt8.ofNat c.toNat :: percentDecode s := by
  rw [percentDecode.eq_def]
  exact if_neg h

/-- Every byte is written by two digits that have its value. -/
theorem valueOf_hexPair (b : UInt8) :
    (hexPair b).length = 2 ∧ Based.valueOf 16 (hexPair b) = b.toNat := by
  have hall : ∀ n < 256, (hexPair (UInt8.ofNat n)).length = 2 ∧
      Based.valueOf 16 (hexPair (UInt8.ofNat n)) = n := by
    decide +kernel
  simpa using hall b.toNat b.toNat_lt

theorem percentDecode_hexPair (b : UInt8) (s : List Char) :
    percentDecode ('%' :: hexPair b ++ s) = b :: percentDecode s := by
  obtain ⟨hlength, hvalue⟩ := valueOf_hexPair b
  obtain ⟨x, y, hpair⟩ := List.length_eq_two.1 hlength
  rw [hpair] at hvalue ⊢
  simp [percentDecode, hvalue]

theorem percentDecode_bytes (bytes : List UInt8) (s : List Char) :
    percentDecode ((bytes.flatMap fun b => '%' :: hexPair b) ++ s) = bytes ++ percentDecode s := by
  induction bytes with
  | nil => rfl
  | cons b bytes ih =>
    rw [List.flatMap_cons, List.append_assoc, percentDecode_hexPair, ih, List.cons_append]

/-- A plain character is an ASCII character and no percent sign. -/
theorem isPlainChar_bounds (h : isPlainChar c = true) : c.toNat < 0x80 ∧ c ≠ '%' := by
  rw [isPlainChar, Text.isAsciiNameChar, Bool.or_eq_true] at h
  rcases h with h | h
  · have hbounds := Text.toNat_of_isAlphanum h
    refine ⟨hbounds.2, ?_⟩
    rintro rfl
    exact absurd hbounds.1 (by decide)
  · simp only [List.contains_iff_mem, List.mem_cons, List.not_mem_nil, or_false] at h
    rcases h with rfl | rfl | rfl | rfl <;> decide

theorem utf8EncodeChar_of_lt (h : c.toNat < 0x80) :
    String.utf8EncodeChar c = [UInt8.ofNat c.toNat] := by
  have hvalid : c.toNat.isValidChar := c.valid
  have hencode := Utf8.utf8EncodeChar_ofNat hvalid
  rwa [Char.ofNat_toNat, if_pos (by omega)] at hencode

/-- **Addresses can be read back.** The further characters that stand for themselves are ASCII
characters and no percent signs. -/
theorem percentDecode_percentEncode {further : List Char}
    (hfurther : ∀ c ∈ further, c.toNat < 0x80 ∧ c ≠ '%') (s t : List Char) :
    percentDecode (percentEncode further s ++ t) = Utf8.encode s ++ percentDecode t := by
  induction s with
  | nil => rfl
  | cons c s ih =>
    have hstep : percentEncode further (c :: s) =
        (if isPlainChar c || further.contains c then [c]
          else (String.utf8EncodeChar c).flatMap fun b => '%' :: hexPair b) ++
          percentEncode further s := rfl
    have hencode : Utf8.encode (c :: s) = String.utf8EncodeChar c ++ Utf8.encode s := rfl
    rw [hstep, hencode, List.append_assoc, List.append_assoc]
    split
    · rename_i hkept
      have hbounds : c.toNat < 0x80 ∧ c ≠ '%' := by
        rw [Bool.or_eq_true, List.contains_iff_mem] at hkept
        exact hkept.elim isPlainChar_bounds (hfurther c)
      rw [utf8EncodeChar_of_lt hbounds.1, List.singleton_append, percentDecode_of_ne hbounds.2, ih,
        List.singleton_append]
    · rw [percentDecode_bytes, ih]

/-- Different texts are written differently inside addresses. -/
theorem percentEncode_injective {further : List Char}
    (hfurther : ∀ c ∈ further, c.toNat < 0x80 ∧ c ≠ '%') :
    Function.Injective (percentEncode further) := by
  intro s t h
  have hread := percentDecode_percentEncode hfurther s []
  rw [h, percentDecode_percentEncode hfurther t [], List.append_cancel_right_eq] at hread
  have hdecode := Utf8.decode_encode t
  rw [hread, Utf8.decode_encode] at hdecode
  exact Except.ok.inj hdecode

theorem address_npm (name : String) :
    (address ⟨.npm, name⟩).toList =
      "https://registry.npmjs.org/".toList ++ percentEncode ['@'] name.toList := by
  simp [address]

theorem address_pypi (name : String) :
    (address ⟨.pypi, name⟩).toList =
      "https://pypi.org/pypi/".toList ++ (percentEncode ['/'] name.toList ++ "/json".toList) := by
  simp [address]

/-- Packages that are asked for at one address are one package. -/
theorem address_injective : Function.Injective address := by
  rintro ⟨world, name⟩ ⟨world', name'⟩ h
  have hlist := congrArg String.toList h
  cases world with
  | npm =>
    cases world' with
    | npm =>
      rw [address_npm, address_npm, List.append_cancel_left_eq] at hlist
      have hname := percentEncode_injective (by simp) hlist
      rw [String.toList_inj.1 hname]
    | pypi =>
      rw [address_npm, address_pypi] at hlist
      simp at hlist
  | pypi =>
    cases world' with
    | npm =>
      rw [address_pypi, address_npm] at hlist
      simp at hlist
    | pypi =>
      rw [address_pypi, address_pypi, List.append_cancel_left_eq,
        List.append_cancel_right_eq] at hlist
      have hname := percentEncode_injective (by simp) hlist
      rw [String.toList_inj.1 hname]

/-! ### What is asked for -/

theorem requests_ne_nil_iff {p : Package} : p.requests ≠ [] ↔ isSaneName p.name = true := by
  rw [requests]
  split
  · rename_i h
    simp [h]
  · rename_i h
    simp [h]

/-- A registry is asked for a package at the address of the package. -/
theorem eq_address_of_mem_requests {p : Package} {a : String} (h : a ∈ p.requests) :
    a = p.address := by
  rw [requests] at h
  split at h
  · exact List.mem_singleton.1 h
  · exact absurd h List.not_mem_nil

/-- What a registry says of a package depends on the replies that it is asked for. -/
theorem knows_congr {p : Package} {R R' : Registry} (h : ∀ a ∈ p.requests, R a = R' a) :
    R.knows p = R'.knows p := by
  rw [Registry.knows, Registry.knows]
  by_cases hsane : isSaneName p.name = true
  · have hasked : p.address ∈ p.requests := by simp [requests, hsane]
    rw [h _ hasked]
  · rw [Bool.eq_false_iff.2 hsane, Bool.false_and, Bool.false_and]

/-- **Only names are asked for, but for a line feed.** What passes is a name of the grammar, or one
with a line feed behind; so the test agrees with the grammar on all names but the latter. A
registry is asked for what passes and for nothing else, and no other reply counts. Different names
are asked for at different addresses. -/
theorem sane_names_exact (name : String) :
    (isSaneName name = true ↔ IsName name.toList ∨ FeedBehind name) ∧
    ((isSaneName name = true ↔ IsName name.toList) ↔ ¬ FeedBehind name) ∧
    (∀ world, requests ⟨world, name⟩ ≠ [] ↔ IsName name.toList ∨ FeedBehind name) ∧
    (∀ (world : Ecosystem) (R R' : Registry), (∀ a ∈ requests ⟨world, name⟩, R a = R' a) →
      R.knows ⟨world, name⟩ = R'.knows ⟨world, name⟩) ∧
    ∀ other, address ⟨.npm, name⟩ = address ⟨.npm, other⟩ ↔ name = other := by
  refine ⟨isSaneName_iff, ?_, fun world => ?_, fun world R R' => knows_congr, fun other => ?_⟩
  · rw [isSaneName_iff]
    constructor
    · intro hagree hfeed
      exact hfeed.not_isName (hagree.1 (.inr hfeed))
    · intro hfeed
      exact or_iff_left hfeed
  · rw [requests_ne_nil_iff, isSaneName_iff]
  · rw [address_injective.eq_iff, Package.mk.injEq, and_iff_right rfl]

/-- The registry that knows every package. -/
def allKnown : Registry := fun _ => .status 200

/-- A name with a scope is asked for, and what is said of it depends on the one reply. -/
theorem sane_names_exact_scoped :
    IsName "@types/node".toList ∧ requests ⟨.npm, "@types/node"⟩ ≠ [] ∧
    (∀ a ∈ requests ⟨.npm, "@types/node"⟩, allKnown a =
      if a = "https://registry.npmjs.org/@types%2Fnode" then .status 200 else .unreachable) ∧
    allKnown.knows ⟨.npm, "@types/node"⟩ =
      Registry.knows (fun a => if a = "https://registry.npmjs.org/@types%2Fnode" then .status 200
        else .unreachable) ⟨.npm, "@types/node"⟩ := by
  have hsane : isSaneName "@types/node" = true := by decide +kernel
  have hasked : ∀ a ∈ requests ⟨.npm, "@types/node"⟩, allKnown a =
      if a = "https://registry.npmjs.org/@types%2Fnode" then .status 200 else .unreachable := by
    decide +kernel
  obtain ⟨hpasses, hagree, hrequests, hreply, -⟩ := sane_names_exact "@types/node"
  have hfeed : ¬ FeedBehind "@types/node" := by
    rintro ⟨s, -, hs⟩
    have hlast := congrArg List.getLast? hs
    rw [List.getLast?_concat] at hlast
    revert hlast
    decide
  exact ⟨(hagree.2 hfeed).1 hsane, (hrequests .npm).2 (hpasses.1 hsane), hasked,
    hreply .npm _ _ hasked⟩

/-- A popular name with a line feed behind is no name, but it passes and is asked for. -/
theorem feed_behind_passes :
    ¬ IsName "openai\n".toList ∧ isSaneName "openai\n" = true ∧
    requests ⟨.npm, "openai\n"⟩ = ["https://registry.npmjs.org/openai%0A"] := by
  have hruns : isSaneName "openai\n" = true ∧
      requests ⟨.npm, "openai\n"⟩ = ["https://registry.npmjs.org/openai%0A"] := by
    decide +kernel
  refine ⟨fun hname => hname.feed_notMem ?_, hruns⟩
  decide

end Package

end LlmAudit
