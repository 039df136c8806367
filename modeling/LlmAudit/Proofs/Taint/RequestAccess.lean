import LlmAudit.Proofs.Audit.Independence
import LlmAudit.Proofs.Text.Case
import LlmAudit.Taint

/-!
# Reads of request objects

The subject are the request-like objects of Section 4.1 (Taint Tracker) of the specification: "a
property access whose root identifier is named `req`/`request`, or is `ctx.request...`".

What a chain of accesses reads from is a matter of its tree: of the name at its root and, where
that name is `ctx`, of the first property that is read (`Node.ReadsRequest`). The code follows the
tree for `req` and `request`, but for `ctx` it compares the start of the chain's text with
`ctx.request`. The text of a chain is laid out freely: blanks and comments may stand on both sides
of each dot (`Node.WrittenOut`). The comparison of texts gives the same answer as the tree unless
the first access is spread out, or its property goes on behind `request` (`Node.MisreadsRequest`).

The proof goes from the outside in. Behind the first access the text goes on with a character that
is no letter of `request` (`Node.Innermost.exists_rest`), so the comparison ends within that
access; and a gap on either side of its dot stops the comparison there (`Gap.eq_nil_of_isPrefix`).
-/

namespace LlmAudit

open Text

/-! ### Chains of accesses -/

/-- In a chain of member accesses the innermost one is the access whose object is the root of the
chain. -/
inductive Node.Innermost : Node → Node → Node → Prop where
  /-- An access on an object that is no access itself. -/
  | self {n root : Node} :
      n.kind = .memberAccess → n.childByField? "object" = some root → root.kind ≠ .memberAccess →
      Innermost n n root
  /-- An access on a chain. -/
  | outer {n object m root : Node} :
      n.kind = .memberAccess → n.childByField? "object" = some object → Innermost object m root →
      Innermost n m root

/-- A read of a request object: a chain of accesses on a name that is `req` or `request` in lower
case, or on one that is `ctx` and of which the property `request` is read first. -/
def Node.ReadsRequest (n : Node) : Prop :=
  ∃ m root, n.Innermost m root ∧ root.kind = .identifier ∧
    (lowered root.text = "req" ∨ lowered root.text = "request" ∨
      lowered root.text = "ctx" ∧ lowered m.memberProperty = "request")

namespace Node

variable {n m m' root root' object : Node}

theorem memberRoot_of_object (hkind : n.kind = .memberAccess)
    (hobject : n.childByField? "object" = some object) : n.memberRoot = object.memberRoot := by
  rw [memberRoot, if_pos hkind]
  split
  · rename_i found hfound
    obtain rfl := Option.some.inj (hfound.symm.trans hobject)
    rfl
  · rename_i hnone
    rw [hnone] at hobject
    cases hobject

theorem memberRoot_of_ne (hkind : n.kind ≠ .memberAccess) : n.memberRoot = n := by
  rw [memberRoot, if_neg hkind]

namespace Innermost

theorem kind_eq (h : n.Innermost m root) : n.kind = .memberAccess := by
  cases h with
  | self hkind => exact hkind
  | outer hkind => exact hkind

theorem unique (h : n.Innermost m root) (h' : n.Innermost m' root') : m = m' ∧ root = root' := by
  induction h with
  | self hkind hobject hroot =>
    cases h' with
    | self _ hobject' => exact ⟨rfl, Option.some.inj (hobject.symm.trans hobject')⟩
    | outer _ hobject' hrest =>
      rw [Option.some.inj (hobject.symm.trans hobject')] at hroot
      exact absurd hrest.kind_eq hroot
  | outer hkind hobject hrest ih =>
    cases h' with
    | self _ hobject' hroot =>
      rw [Option.some.inj (hobject'.symm.trans hobject)] at hroot
      exact absurd hrest.kind_eq hroot
    | outer _ hobject' hrest' =>
      rw [Option.some.inj (hobject'.symm.trans hobject)] at hrest'
      exact ih hrest'

theorem memberRoot_eq (h : n.Innermost m root) : n.memberRoot = root := by
  induction h with
  | self hkind hobject hroot =>
    rw [memberRoot_of_object hkind hobject, memberRoot_of_ne hroot]
  | outer hkind hobject _ ih => rw [memberRoot_of_object hkind hobject, ih]

end Innermost

/-- A chain of accesses whose root is no access has an innermost access. -/
theorem exists_innermost (hkind : n.kind = .memberAccess)
    (hroot : n.memberRoot.kind ≠ .memberAccess) : ∃ m, n.Innermost m n.memberRoot := by
  fun_induction memberRoot n with
  | case1 n _ object hobject _ ih =>
    by_cases hinner : object.kind = .memberAccess
    · obtain ⟨m, hm⟩ := ih hinner hroot
      exact ⟨m, .outer hkind hobject hm⟩
    · rw [memberRoot_of_ne hinner]
      exact ⟨n, .self hkind hobject hinner⟩
  | case2 n _ _ => exact absurd hkind hroot
  | case3 n hother => exact absurd hkind hother

/-- What the code looks at, by the innermost access of a chain. -/
theorem isRequestAccess_iff_innermost :
    n.isRequestAccess = true ↔
      ∃ m root, n.Innermost m root ∧ root.kind = .identifier ∧
        (lowered root.text = "req" ∨ lowered root.text = "request" ∨
          lowered root.text = "ctx" ∧
            "ctx.request".toList <+: plainAccess (lower n.text.toList)) := by
  simp only [isRequestAccess, Bool.and_eq_true, Bool.or_eq_true, beq_iff_eq, or_assoc,
    List.isPrefixOf_iff_prefix]
  constructor
  · rintro ⟨hkind, hroot, hname⟩
    obtain ⟨m, hm⟩ := exists_innermost hkind (by rw [hroot]; decide)
    exact ⟨m, n.memberRoot, hm, hroot, hname⟩
  · rintro ⟨m, root, hm, hroot, hname⟩
    rw [← hm.memberRoot_eq] at hroot hname
    exact ⟨hm.kind_eq, hroot, hname⟩

end Node

/-! ### Plain dots -/

/-- What stands between an object and its property. -/
def accessMarks : List String :=
  [".", "?."]

theorem mem_accessMarks_iff {mark : String} : mark ∈ accessMarks ↔ mark = "." ∨ mark = "?." := by
  simp [accessMarks]

section PlainAccess

variable {c : Char} {w v t : List Char}

theorem isPrefix_plainAccess_cons (hdot : c ≠ '.') (hmark : c ≠ '?') :
    c :: w <+: plainAccess t ↔ ∃ t', t = c :: t' ∧ w <+: plainAccess t' := by
  fun_cases plainAccess t with
  | case1 => simp
  | case2 rest => simp [hdot, hmark.symm]
  | case3 a rest hplain =>
    rw [List.cons_prefix_cons]
    constructor
    · rintro ⟨rfl, h⟩
      exact ⟨rest, rfl, h⟩
    · rintro ⟨t', heq, h⟩
      obtain ⟨rfl, rfl⟩ := List.cons.inj heq
      exact ⟨rfl, h⟩

theorem isPrefix_plainAccess_dot :
    '.' :: w <+: plainAccess t ↔
      ∃ mark ∈ accessMarks, ∃ t', t = mark.toList ++ t' ∧ w <+: plainAccess t' := by
  simp only [mem_accessMarks_iff, exists_eq_or_imp, exists_eq_left]
  fun_cases plainAccess t with
  | case1 => simp
  | case2 rest => simp
  | case3 a rest hplain =>
    rw [List.cons_prefix_cons]
    constructor
    · rintro ⟨rfl, h⟩
      exact Or.inl ⟨rest, rfl, h⟩
    · rintro (⟨t', heq, h⟩ | ⟨t', heq, -⟩)
      · obtain ⟨rfl, rfl⟩ := List.cons.inj heq
        exact ⟨rfl, h⟩
      · obtain ⟨rfl, rfl⟩ := List.cons.inj heq
        exact absurd rfl (hplain t' rfl)

theorem isPrefix_plainAccess_append (hdot : '.' ∉ w) (hmark : '?' ∉ w) :
    w ++ v <+: plainAccess t ↔ ∃ t', t = w ++ t' ∧ v <+: plainAccess t' := by
  induction w generalizing t with
  | nil => simp
  | cons c w ih =>
    rw [List.mem_cons, not_or] at hdot hmark
    rw [List.cons_append, isPrefix_plainAccess_cons (Ne.symm hdot.1) (Ne.symm hmark.1)]
    simp only [ih hdot.2 hmark.2]
    constructor
    · rintro ⟨_, rfl, t', rfl, h⟩
      exact ⟨t', rfl, h⟩
    · rintro ⟨t', rfl, h⟩
      exact ⟨_, rfl, t', rfl, h⟩

/-- Which texts begin with `ctx.request` once each `?.` in them is a plain dot. -/
theorem ctxRequest_isPrefix_iff :
    "ctx.request".toList <+: plainAccess t ↔
      ∃ mark ∈ accessMarks, "ctx".toList ++ (mark.toList ++ "request".toList) <+: t := by
  have hword : "ctx.request".toList = "ctx".toList ++ '.' :: ("request".toList ++ []) := by decide
  rw [hword, isPrefix_plainAccess_append (by decide) (by decide)]
  simp only [isPrefix_plainAccess_dot]
  constructor
  · rintro ⟨_, rfl, mark, hmark, _, rfl, h⟩
    obtain ⟨t', rfl, -⟩ := (isPrefix_plainAccess_append (by decide) (by decide)).1 h
    exact ⟨mark, hmark, t', by simp⟩
  · rintro ⟨mark, hmark, t', rfl⟩
    refine ⟨mark.toList ++ ("request".toList ++ t'), by simp, mark, hmark, _, rfl, ?_⟩
    exact (isPrefix_plainAccess_append (by decide) (by decide)).2 ⟨t', rfl, List.nil_prefix⟩

end PlainAccess

/-! ### The text of a chain -/

/-- The characters that may stand between two words. -/
def blanks : List Char :=
  ['\t', '\n', '\x0b', '\x0c', '\r', ' ', '\u0085', '\u00a0', '\u1680', '\u2000', '\u2001',
    '\u2002', '\u2003', '\u2004', '\u2005', '\u2006', '\u2007', '\u2008', '\u2009', '\u200a',
    '\u200b', '\u2028', '\u2029', '\u202f', '\u205f', '\u2060', '\u3000', '\ufeff']

/-- A comment. -/
inductive Comment : List Char → Prop where
  /-- It goes to the end of its line. -/
  | toEnd {mark : String} {body : List Char} :
      mark ∈ ["//", "<!--", "-->"] → (∀ c ∈ ['\n', '\r', '\u2028', '\u2029'], c ∉ body) →
      Comment (mark.toList ++ body)
  /-- It has an end of its own. -/
  | closed {body : List Char} :
      ¬ "*/".toList <:+: body → Comment ("/*".toList ++ body ++ "*/".toList)

/-- Blanks and comments. -/
inductive Gap : List Char → Prop where
  /-- Nothing. -/
  | nil : Gap []
  /-- One blank more. -/
  | blank {c : Char} {s : List Char} : c ∈ blanks → Gap s → Gap (c :: s)
  /-- One comment more. -/
  | comment {s t : List Char} : Comment s → Gap t → Gap (s ++ t)

/-- How an access is written: the object, a dot or `?.`, and the name of the property, with blanks
and comments on both sides of the dot. -/
def Node.WrittenOn (n object : Node) : Prop :=
  ∃ before, Gap before ∧ ∃ mark ∈ accessMarks, ∃ after, Gap after ∧
    n.text.toList =
      object.text.toList ++ (before ++ (mark.toList ++ (after ++ n.memberProperty.toList)))

/-- An access with no blanks and comments between its parts. -/
def Node.TightOn (n object : Node) : Prop :=
  ∃ mark ∈ accessMarks, n.text = object.text ++ mark ++ n.memberProperty

/-- Each access of a chain has the text that its parts give. -/
inductive Node.WrittenOut : Node → Prop where
  /-- No access, or one without an object. -/
  | root {n : Node} : (n.kind = .memberAccess → n.childByField? "object" = none) → WrittenOut n
  /-- An access on an object. -/
  | access {n object : Node} :
      n.childByField? "object" = some object → n.WrittenOn object → WrittenOut object →
      WrittenOut n

/-- A text that does not go on with a letter of the word. -/
def Parted (w rest : List Char) : Prop :=
  ∀ c ∈ rest.head?, lowerLetter c ∉ w

namespace Parted

variable {w a rest : List Char}

/-- Whether a text begins with a word does not depend on what stands behind a place at which the
word cannot go on. -/
theorem isPrefix_append_iff (h : Parted w rest) :
    w <+: (a ++ rest).map lowerLetter ↔ w <+: a.map lowerLetter := by
  rw [List.map_append]
  refine ⟨fun hw => ?_, fun hw => hw.trans (List.prefix_append ..)⟩
  -- if the word is longer than `a`, its next letter is the first one of `rest`
  rcases List.prefix_or_prefix_of_prefix hw (List.prefix_append ..) with hshort | ⟨u, rfl⟩
  · exact hshort
  · cases u with
    | nil => simp
    | cons c u =>
      rw [List.prefix_append_right_inj] at hw
      obtain ⟨rest', hrest⟩ := hw
      obtain ⟨d, rest, rfl, rfl, -⟩ := List.map_eq_cons_iff.1 hrest.symm
      exact absurd (by simp) (h d rfl)

theorem mono {w' : List Char} (h : Parted w rest) (hw : w' ⊆ w) : Parted w' rest :=
  fun c hc hmem => h c hc (hw hmem)

theorem append {rest' : List Char} (h : Parted w rest) (h' : Parted w rest') :
    Parted w (rest ++ rest') := by
  cases rest with
  | nil => exact h'
  | cons c rest => exact h

end Parted

theorem Comment.exists_cons {s : List Char} (h : Comment s) :
    ∃ c t, s = c :: t ∧ c ∈ ['/', '<', '-'] := by
  cases h with
  | @toEnd mark body hmark =>
    have hcons : ∀ mark ∈ ["//", "<!--", "-->"],
        ∃ c t, mark.toList = c :: t ∧ c ∈ ['/', '<', '-'] := by
      simp
    obtain ⟨c, t, heq, hc⟩ := hcons mark hmark
    exact ⟨c, t ++ body, by rw [heq, List.cons_append], hc⟩
  | closed => exact ⟨'/', _, rfl, by simp⟩

theorem lowerLetter_not_mem_of_gap {c : Char} (h : c ∈ blanks ++ ['/', '<', '-']) :
    lowerLetter c ∉ ".?request".toList := by
  have hall : (blanks ++ ['/', '<', '-']).all
      (fun c => !".?request".toList.contains (lowerLetter c)) = true := by
    decide +kernel
  simpa using List.all_eq_true.1 hall c h

namespace Gap

variable {s t w : List Char} {c : Char}

/-- Blanks and comments begin with no letter of `request`, no dot and no question mark. -/
theorem parted (h : Gap s) : Parted ".?request".toList s := by
  cases h with
  | nil => simp [Parted]
  | blank hc =>
    rintro d ⟨⟩
    exact lowerLetter_not_mem_of_gap (List.mem_append_left _ hc)
  | comment hcomment =>
    obtain ⟨c, t, rfl, hc⟩ := hcomment.exists_cons
    rintro d ⟨⟩
    exact lowerLetter_not_mem_of_gap (List.mem_append_right _ hc)

theorem eq_nil_of_isPrefix (h : Gap s) (hc : c ∈ ".?request".toList)
    (hw : c :: w <+: (s ++ t).map lowerLetter) : s = [] := by
  cases s with
  | nil => rfl
  | cons d s =>
    rw [List.cons_append, List.map_cons, List.cons_prefix_cons] at hw
    exact absurd (hw.1 ▸ hc) (h.parted d rfl)

end Gap

theorem isPrefix_accessMark {mark mark' : String} {w t : List Char} (h : mark ∈ accessMarks)
    (h' : mark' ∈ accessMarks)
    (hw : mark.toList ++ w <+: (mark'.toList ++ t).map lowerLetter) :
    mark = mark' ∧ w <+: t.map lowerLetter := by
  have hdot : lowerLetter '.' = '.' := by decide +kernel
  have hquestion : lowerLetter '?' = '?' := by decide +kernel
  rcases mem_accessMarks_iff.1 h with rfl | rfl <;>
    rcases mem_accessMarks_iff.1 h' with rfl | rfl <;> simp_all

namespace Node

variable {n m root : Node} {rest : List Char}

/-- A chain goes on behind its innermost access with blanks, a comment or a dot. -/
theorem Innermost.exists_rest (h : n.Innermost m root) (hn : n.WrittenOut) :
    m.WrittenOn root ∧ ∃ rest, n.text.toList = m.text.toList ++ rest ∧
      Parted "request".toList rest := by
  have hletters : "request".toList ⊆ ".?request".toList := by
    intro c hc
    exact List.mem_cons_of_mem '.' (List.mem_cons_of_mem '?' hc)
  induction h with
  | self hkind hobject _ =>
    cases hn with
    | root hnone => rw [hnone hkind] at hobject; cases hobject
    | access hobject' hwritten _ =>
      obtain rfl := Option.some.inj (hobject.symm.trans hobject')
      exact ⟨hwritten, [], (List.append_nil _).symm, by simp [Parted]⟩
  | outer hkind hobject _ ih =>
    cases hn with
    | root hnone => rw [hnone hkind] at hobject; cases hobject
    | access hobject' hwritten hn' =>
      obtain rfl := Option.some.inj (hobject.symm.trans hobject')
      obtain ⟨hroot, rest, htext, hrest⟩ := ih hn'
      obtain ⟨before, hbefore, mark, hmark, after, -, htext'⟩ := hwritten
      refine ⟨hroot, _, by rw [htext', htext, List.append_assoc], hrest.append ?_⟩
      refine (hbefore.parted.mono hletters).append ?_
      rcases mem_accessMarks_iff.1 hmark with rfl | rfl
      · rintro c ⟨⟩
        decide +kernel
      · rintro c ⟨⟩
        decide +kernel

/-- Where a chain on `ctx` begins with `ctx.request`, no blanks and comments stand around its first
dot, and its first property begins with `request`. -/
theorem WrittenOn.ctxRequest_isPrefix_iff (h : m.WrittenOn root)
    (hroot : root.text.toList.map lowerLetter = "ctx".toList)
    (hrest : Parted "request".toList rest) :
    (∃ mark ∈ accessMarks, "ctx".toList ++ (mark.toList ++ "request".toList) <+:
        (m.text.toList ++ rest).map lowerLetter) ↔
      m.TightOn root ∧ "request".toList <+: m.memberProperty.toList.map lowerLetter := by
  constructor
  · rintro ⟨mark', hmark', hw⟩
    obtain ⟨before, hbefore, mark, hmark, after, hafter, htext⟩ := h
    have hhead : ∃ c w, mark'.toList = c :: w ∧ c ∈ ".?request".toList := by
      rcases mem_accessMarks_iff.1 hmark' with rfl | rfl
      · exact ⟨'.', [], rfl, by decide⟩
      · exact ⟨'?', ['.'], rfl, by decide⟩
    obtain ⟨c, w, hcons, hc⟩ := hhead
    rw [htext, List.append_assoc, List.map_append, hroot, List.prefix_append_right_inj,
      List.append_assoc] at hw
    -- a gap before the dot differs from the dot, and one behind it from the `r`
    obtain rfl : before = [] := hbefore.eq_nil_of_isPrefix hc (by rwa [hcons] at hw)
    rw [List.nil_append, List.append_assoc] at hw
    obtain ⟨rfl, hw'⟩ := isPrefix_accessMark hmark' hmark hw
    rw [List.append_assoc] at hw'
    obtain rfl : after = [] := hafter.eq_nil_of_isPrefix (c := 'r') (by decide) hw'
    rw [List.nil_append, hrest.isPrefix_append_iff] at hw'
    refine ⟨⟨mark', hmark, ?_⟩, hw'⟩
    rw [← String.toList_inj, htext]
    simp
  · rintro ⟨⟨mark, hmark, htext⟩, hw⟩
    refine ⟨mark, hmark, ?_⟩
    have hlower : mark.toList.map lowerLetter = mark.toList := by
      rcases mem_accessMarks_iff.1 hmark with rfl | rfl <;> decide +kernel
    rw [htext, String.toList_append, String.toList_append]
    simp only [List.map_append, hroot, hlower, List.append_assoc, List.prefix_append_right_inj]
    exact hw.trans (List.prefix_append ..)

/-- What the code takes for a read of a request object, in the words of the chain: on `ctx` the text
of the first access counts, not only its property. -/
theorem isRequestAccess_iff (hn : n.WrittenOut) :
    n.isRequestAccess = true ↔
      ∃ m root, n.Innermost m root ∧ root.kind = .identifier ∧
        (lowered root.text = "req" ∨ lowered root.text = "request" ∨
          lowered root.text = "ctx" ∧ m.TightOn root ∧
            "request".toList <+: lower m.memberProperty.toList) := by
  have hprefix : ∀ {m root}, n.Innermost m root → lowered root.text = "ctx" →
      ("ctx.request".toList <+: plainAccess (lower n.text.toList) ↔
        m.TightOn root ∧ "request".toList <+: lower m.memberProperty.toList) := by
    intro m root hm hroot
    obtain ⟨hwritten, rest, htext, hrest⟩ := hm.exists_rest hn
    rw [lowered_eq_iff (by decide)] at hroot
    rw [isPrefix_lower_iff (by decide), ← hwritten.ctxRequest_isPrefix_iff hroot hrest,
      LlmAudit.ctxRequest_isPrefix_iff, htext]
    refine exists_congr fun mark => and_congr_right fun hmark => isPrefix_lower_iff ?_
    rcases mem_accessMarks_iff.1 hmark with rfl | rfl <;> decide
  rw [isRequestAccess_iff_innermost]
  refine exists_congr fun m => exists_congr fun root => and_congr_right fun hm =>
    and_congr_right fun _ => or_congr_right (or_congr_right ?_)
  exact and_congr_right fun hroot => hprefix hm hroot

theorem Innermost.exists_iff {P : Node → Node → Prop} (h : n.Innermost m root) :
    (∃ m' root', n.Innermost m' root' ∧ P m' root') ↔ P m root := by
  constructor
  · rintro ⟨m', root', h', hP⟩
    obtain ⟨rfl, rfl⟩ := h.unique h'
    exact hP
  · exact fun hP => ⟨m, root, h, hP⟩

end Node

/-- A chain on `ctx` that the code gets wrong. Either its first property is `request` and there is a
blank or a comment between the two, or its first property only begins with `request`. -/
def Node.MisreadsRequest (n : Node) : Prop :=
  ∃ m root, n.Innermost m root ∧ root.kind = .identifier ∧ lowered root.text = "ctx" ∧
    (lowered m.memberProperty = "request" ∧ ¬ m.TightOn root ∨
      m.TightOn root ∧ "request".toList <+: lower m.memberProperty.toList ∧
        lowered m.memberProperty ≠ "request")

/-- A chain is taken for a read of a request object exactly if it is one, unless it is one of the
chains on `ctx` that the code gets wrong. -/
theorem Node.isRequestAccess_iff_readsRequest_iff {n : Node} (hn : n.WrittenOut) :
    (n.isRequestAccess = true ↔ n.ReadsRequest) ↔ ¬ n.MisreadsRequest := by
  rw [isRequestAccess_iff hn, ReadsRequest, MisreadsRequest]
  by_cases hchain : ∃ m root, n.Innermost m root
  · obtain ⟨m, root, hm⟩ := hchain
    rw [hm.exists_iff, hm.exists_iff, hm.exists_iff]
    by_cases hctx : root.kind = .identifier ∧ lowered root.text = "ctx"
    · obtain ⟨hkind, hroot⟩ := hctx
      have hexact : lowered m.memberProperty = "request" →
          "request".toList <+: lower m.memberProperty.toList := by
        intro h
        exact ⟨[], by rw [← h, lowered, String.toList_ofList, List.append_nil]⟩
      have hreq : ¬ "ctx" = "req" := by decide
      have hrequest : ¬ "ctx" = "request" := by decide
      simp only [hkind, hroot, hreq, hrequest, true_and, false_or]
      by_cases htight : m.TightOn root
      · by_cases hproperty : lowered m.memberProperty = "request"
        · exact iff_of_true (iff_of_true ⟨htight, hexact hproperty⟩ hproperty) fun h =>
            h.elim (fun h => h.2 htight) fun h => h.2.2 hproperty
        · simp only [htight, hproperty, true_and, false_and, false_or, iff_false, ne_eq,
            not_false_eq_true, and_true]
      · simp only [htight, false_and, or_false, false_iff, not_false_eq_true, and_true]
    · refine iff_of_true ?_ fun h => hctx ⟨h.1, h.2.1⟩
      refine and_congr_right fun hkind => or_congr_right (or_congr_right ?_)
      exact iff_of_false (fun h => hctx ⟨hkind, h.1⟩) fun h => hctx ⟨hkind, h.1⟩
  · have hnone : ∀ P : Node → Node → Prop, ¬ ∃ m root, n.Innermost m root ∧ P m root := by
      rintro P ⟨m, root, hm, -⟩
      exact hchain ⟨m, root, hm⟩
    exact iff_of_true (iff_of_false (hnone _) (hnone _)) (hnone _)

/-! ### Chains on `ctx` -/

/-- An access on an object, with blanks and comments before the dot. -/
def Node.access (field : Option String) (object : Node) (before mark property : String) : Node :=
  .onLine 1 "member_expression" field (object.text ++ before ++ mark ++ property) [
    object, .onLine 1 "property_identifier" (some "property") property []]

/-- The name `ctx` as an object. -/
def Node.ctx : Node :=
  .onLine 1 "identifier" (some "object") "ctx" []

/-- `ctx?.Request.body` with a comment and a line break behind `Request`. -/
def Node.tightChain : Node :=
  .access none (.access (some "object") .ctx "" "?." "Request") " /* raw */\n  " "." "body"

/-- `ctx.request.body` with a line break behind `ctx`. -/
def Node.brokenChain : Node :=
  .access none (.access (some "object") .ctx "\n  " "." "request") "" "." "body"

/-- `ctx.requestId`. -/
def Node.longerName : Node :=
  .access none .ctx "" "." "requestId"

theorem Gap.of_all_blank {s : List Char} (h : s.all blanks.contains = true) : Gap s := by
  induction s with
  | nil => exact .nil
  | cons c s ih =>
    rw [List.all_cons, Bool.and_eq_true, List.contains_iff_mem] at h
    exact .blank h.1 (ih h.2)

namespace Node

section Access

variable {field : Option String} {object : Node} {before mark property : String}

theorem childByField?_access (hfield : object.field = some "object") :
    (access field object before mark property).childByField? "object" = some object := by
  simp [childByField?, access, onLine, hfield]

theorem memberProperty_access (hfield : object.field = some "object") :
    (access field object before mark property).memberProperty = property := by
  simp [memberProperty, childByField?, access, onLine, hfield]

theorem writtenOut_access (hfield : object.field = some "object") (hobject : object.WrittenOut)
    (hbefore : Gap before.toList) (hmark : mark ∈ accessMarks) :
    (access field object before mark property).WrittenOut := by
  refine .access (childByField?_access hfield)
    ⟨before.toList, hbefore, mark, hmark, [], .nil, ?_⟩ hobject
  rw [memberProperty_access hfield]
  simp [access, onLine]

end Access

theorem writtenOut_ctx : ctx.WrittenOut :=
  .root fun h => absurd h (by decide)

/-- A chain with optional chaining, capitals, a comment and a line break. -/
theorem isRequestAccess_iff_readsRequest_iff_tightChain :
    tightChain.WrittenOut ∧ ¬ tightChain.MisreadsRequest ∧
      (tightChain.isRequestAccess = true ↔ tightChain.ReadsRequest) ∧ tightChain.ReadsRequest := by
  have hraw : Comment ("/*".toList ++ " raw ".toList ++ "*/".toList) := .closed (by decide)
  have hgap : Gap " /* raw */\n  ".toList :=
    .blank (by decide) (.comment hraw (Gap.of_all_blank (by decide)))
  have hwritten : tightChain.WrittenOut :=
    writtenOut_access rfl (writtenOut_access rfl writtenOut_ctx .nil (by decide)) hgap (by decide)
  have hm : tightChain.Innermost (.access (some "object") .ctx "" "?." "Request") .ctx :=
    .outer (by decide) (childByField?_access rfl)
      (.self (by decide) (childByField?_access rfl) (by decide))
  have hexact : lowered "Request" = "request" := by decide +kernel
  have htight : (access (some "object") ctx "" "?." "Request").TightOn ctx :=
    ⟨"?.", by decide, rfl⟩
  have hnot : ¬ tightChain.MisreadsRequest := by
    rw [MisreadsRequest, hm.exists_iff, memberProperty_access rfl]
    rintro ⟨-, -, ⟨-, h⟩ | ⟨-, -, h⟩⟩
    · exact h htight
    · exact h hexact
  have hiff := (isRequestAccess_iff_readsRequest_iff hwritten).2 hnot
  have hcode : tightChain.isRequestAccess = true := by decide +kernel
  exact ⟨hwritten, hnot, hiff, hiff.1 hcode⟩

/-- A line break behind `ctx` hides a read of the request, and a property whose name only begins
with `request` is taken for one. -/
theorem ctx_request_misread :
    (brokenChain.WrittenOut ∧ brokenChain.ReadsRequest ∧ brokenChain.isRequestAccess = false) ∧
      longerName.WrittenOut ∧ ¬ longerName.ReadsRequest ∧ longerName.isRequestAccess = true := by
  have hbreak : Gap "\n  ".toList := Gap.of_all_blank (by decide)
  have hbroken : brokenChain.Innermost (.access (some "object") .ctx "\n  " "." "request") .ctx :=
    .outer (by decide) (childByField?_access rfl)
      (.self (by decide) (childByField?_access rfl) (by decide))
  have hlonger : longerName.Innermost longerName .ctx :=
    .self (by decide) (childByField?_access rfl) (by decide)
  refine ⟨⟨?_, ?_, by decide +kernel⟩, ?_, ?_, by decide +kernel⟩
  · exact writtenOut_access rfl (writtenOut_access rfl writtenOut_ctx hbreak (by decide)) .nil
      (by decide)
  · rw [ReadsRequest, hbroken.exists_iff]
    exact ⟨by decide, Or.inr (Or.inr (by decide +kernel))⟩
  · exact writtenOut_access rfl writtenOut_ctx .nil (by decide)
  · rw [ReadsRequest, hlonger.exists_iff]
    decide +kernel

end Node

end LlmAudit
