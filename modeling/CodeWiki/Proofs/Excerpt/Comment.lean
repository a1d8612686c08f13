import CodeWiki.Excerpt.Comment
import CodeWiki.Proofs.Excerpt.Passes

/-! Source text without its comments, by passes and by one reading. Each pass removes what a reading
for its kind alone would pass over; together they are one reading for all kinds unless a comment is
spoilt by an earlier pass. The text behind a spoilt block is then lost up to the next end of a
block. -/
namespace CodeWiki.Comment

open CommentKind

variable {t hidden rest code : Text} {c : Char} {place : Place}

/-! ### Each pass -/

theorem hashFrom_hidden (single : '\n' ∉ hidden) (stops : StopsLine rest) :
    hashFrom true (hidden ++ rest) = hashFrom false rest := by
  induction hidden with
  | nil =>
    cases rest with
    | nil => rfl
    | cons d rest =>
      obtain rfl := stops d rfl
      rfl
  | cons d hidden ih =>
    rw [List.mem_cons, not_or] at single
    rw [List.cons_append, hashFrom, if_neg (Ne.symm single.1), Bool.true_or, if_pos rfl,
      ih single.2]

theorem removeHash_eq_scan (t : Text) : removeHash t = scan [hashLine] t := by
  induction t using induction_read [hashLine] with
  | done => rfl
  | outside c t outside ih =>
    rw [removeHash] at ih ⊢
    rw [scan_cons outside, hashFrom, ← ih]
    have other : c ≠ '#' := by
      rw [hashLine, first?_single, begins?_line_eq_none_iff] at outside
      rintro rfl
      exact outside (List.prefix_append ['#'] t)
    simp [other]
  | inside t comment found ih =>
    rw [scan_comment found, ← ih]
    rw [hashLine, first?_single] at found
    obtain ⟨hidden, rest, single, stops, rfl, rfl⟩ := begins?_line_eq_some_iff.mp found
    exact hashFrom_hidden single stops

theorem slashFrom_hidden (single : '\n' ∉ hidden) (stops : StopsLine rest) :
    slashFrom .hidden (hidden ++ rest) = slashFrom .lineStart rest := by
  induction hidden with
  | nil =>
    cases rest with
    | nil => rfl
    | cons d rest =>
      obtain rfl := stops d rfl
      rfl
  | cons d hidden ih =>
    rw [List.mem_cons, not_or] at single
    rw [List.cons_append, slashFrom, if_pos (by simp [Ne.symm single.1]), ih single.2]

theorem slashFrom_lineStart (single : '\n' ∉ hidden) (stops : StopsLine rest) :
    slashFrom .lineStart ("//".toList ++ hidden ++ rest) = slashFrom .lineStart rest := by
  have behindFirst : '\n' ∉ '/' :: hidden := by
    rw [List.mem_cons, not_or]
    exact ⟨by decide, single⟩
  exact slashFrom_hidden behindFirst stops

theorem slashFrom_cons (visible : place ≠ .hidden) (plain : opensAfter c = true)
    (outside : "//".toList.isPrefixOf (c :: t) = false) :
    slashFrom place (c :: t) = c :: slashFrom
      (if "//".toList.isPrefixOf t then .hidden else if c = '\n' then .lineStart else .inLine)
      t := by
  have same : "//".toList = ['/', '/'] := rfl
  rw [same] at outside ⊢
  simp only [slashFrom, visible, outside, plain, decide_false, Bool.false_and, Bool.and_false,
    Bool.true_and, Bool.false_eq_true, if_false]
  split <;> simp

/-- Where every character allows a comment behind it, each pair of slashes outside of comments opens
one. -/
theorem slashFrom_eq_scan (plain : ∀ c ∈ t, opensAfter c = true)
    (stands : place = .lineStart ∨ place = .inLine ∧ ¬ "//".toList <+: t) :
    slashFrom place t = scan [slashLine] t := by
  induction t using induction_read [slashLine] generalizing place with
  | done => rfl
  | outside c t outside ih =>
    have later := fun place => @ih place fun d member => plain d (List.mem_cons_of_mem _ member)
    rw [scan_cons outside]
    rw [slashLine, first?_single, begins?_line_eq_none_iff, ← List.isPrefixOf_iff_prefix,
      Bool.not_eq_true] at outside
    have visible : place ≠ .hidden := by
      rcases stands with rfl | ⟨rfl, -⟩ <;> exact nofun
    rw [slashFrom_cons visible (plain c List.mem_cons_self) outside]
    by_cases next : "//".toList <+: t
    · obtain ⟨u, rfl⟩ := next
      exact congrArg (c :: ·) (later .lineStart (Or.inl rfl))
    · rw [if_neg (mt List.isPrefixOf_iff_prefix.mp next)]
      congr 1
      split
      · exact later .lineStart (Or.inl rfl)
      · exact later .inLine (Or.inr ⟨rfl, next⟩)
  | inside t comment found ih =>
    obtain ⟨whole, -, -⟩ := eq_append_of_first? found
    rw [scan_comment found]
    rw [slashLine, first?_single] at found
    obtain ⟨hidden, rest, single, stops, rfl, rfl⟩ := begins?_line_eq_some_iff.mp found
    have atStart : place = .lineStart := by
      rcases stands with atStart | ⟨-, other⟩
      · exact atStart
      · refine absurd ?_ other
        rw [List.append_assoc]
        exact List.prefix_append _ _
    rw [atStart]
    refine (slashFrom_lineStart single stops).trans (ih (fun d member => plain d ?_) (Or.inl rfl))
    exact List.mem_append_right _ member

theorem removeSlash_eq_scan (plain : ∀ c ∈ t, opensAfter c = true) :
    removeSlash t = scan [slashLine] t :=
  slashFrom_eq_scan plain (Or.inl rfl)

theorem blockLength?_eq (opening closing : Delimiter) (t : Text) :
    blockLength? opening.text closing.text t = ((block opening closing).begins? t).map
    (·.text.length) := by
  rw [blockLength?, begins?, Option.map_bind]
  congr 1
  funext inside
  rw [Function.comp_apply, Option.map_map]
  congr 1
  funext parts
  simp only [Function.comp_apply, List.length_append]

theorem blocksFrom_skip (opening closing skipped t : Text) :
    blocksFrom opening closing skipped.length (skipped ++ t) = removeBlocks opening closing t := by
  induction skipped with
  | nil => rfl
  | cons c skipped ih => exact ih

theorem removeBlocks_eq_scan (opening closing : Delimiter) (t : Text) :
    removeBlocks opening.text closing.text t = scan [block opening closing] t := by
  induction t using induction_read [block opening closing] with
  | done => rfl
  | outside c t outside ih =>
    rw [scan_cons outside, ← ih]
    rw [first?_single] at outside
    have none := blockLength?_eq opening closing (c :: t)
    rw [outside, Option.map_none] at none
    rw [removeBlocks, blocksFrom, none]
    rfl
  | inside t comment found ih =>
    obtain ⟨whole, occupied, -⟩ := eq_append_of_first? found
    rw [scan_comment found, ← ih]
    rw [first?_single] at found
    have some := blockLength?_eq opening closing t
    obtain ⟨c, more, text⟩ := List.exists_cons_of_ne_nil occupied
    rw [found, Option.map_some, text, List.length_cons] at some
    rw [text, List.cons_append] at whole
    rw [whole] at some ⊢
    rw [removeBlocks, blocksFrom, some]
    exact blocksFrom_skip _ _ more comment.rest

/-! ### The passes together -/

/-- The languages whose comments are those of slashes alone. -/
def slashLanguages : List Language := [.go, .javaScript, .jvmLike, .cFamily]

theorem opensAfter_of_plain (noDouble : '"' ∉ t) (noSingle : '\'' ∉ t) (noColon : ':' ∉ t) :
    ∀ c ∈ t, opensAfter c = true := by
  intro c member
  simp only [opensAfter, Bool.and_eq_true, bne_iff_ne]
  refine ⟨⟨?_, ?_⟩, ?_⟩ <;> rintro rfl <;> contradiction

theorem strip_slashLanguage {language : Language} (slashes : language ∈ slashLanguages)
    (plain : ∀ c ∈ code, opensAfter c = true) :
    strip language code = withoutBlankLines (scan [slashBlock] (scan [slashLine] code)) := by
  have alone : language.hasHashComments = false ∧ language.hasSlashComments = true ∧
      language.hasQuotedBlocks = false := by
    revert language
    decide
  obtain ⟨noHash, slash, noQuotes⟩ := alone
  rw [slashBlock, ← removeBlocks_eq_scan, ← removeSlash_eq_scan plain]
  simp only [strip, noHash, slash, noQuotes, if_true, Bool.false_eq_true, if_false,
    withoutBlankLines]

theorem strip_python (code : Text) : strip .python code =
    withoutBlankLines (scan [doubleQuoted] (scan [singleQuoted] (scan [hashLine] code))) := by
  rw [doubleQuoted, ← removeBlocks_eq_scan, singleQuoted, ← removeBlocks_eq_scan,
    ← removeHash_eq_scan]
  rfl

theorem blocksApart_slash : BlocksApart { text := "//" } [slashBlock] := by
  intro kind member
  obtain rfl := List.mem_singleton.mp member
  exact ⟨_, _, rfl, by decide⟩

theorem blocksApart_hash : BlocksApart { text := "#" } [singleQuoted, doubleQuoted] := by
  intro kind member
  rcases List.mem_pair.mp member with rfl | rfl
  · exact ⟨_, _, rfl, by decide⟩
  · exact ⟨_, _, rfl, by decide⟩

/-- The passes remove what a reader from left to right takes for comments if no comment is spoilt by
an earlier pass. A spoilt block of slashes at the beginning takes with it all code in front of the
next end that is left. -/
theorem strip_eq_scan_of_unspoilt (code : Text) :
    (∀ language ∈ slashLanguages, '"' ∉ code → '\'' ∉ code → ':' ∉ code →
      (isUnspoilt slashKinds code = true →
        strip language code = withoutBlankLines (scan slashKinds code)) ∧
      ∀ comment rest left right, first? slashKinds code = some comment → comment.kind = slashBlock →
        comment.rest = '\n' :: rest → isSpoiltBy slashLine comment = true →
        Text.cut? "*/" (scan [slashLine] rest) = some (left, right) →
        strip language code = withoutBlankLines (scan [slashBlock] right) ∧
          scan slashKinds code = scan slashKinds ('\n' :: rest)) ∧
    ('"' ∉ scan quoteKinds code → isUnspoilt quoteKinds code = true →
      strip .python code = withoutBlankLines (scan quoteKinds code)) := by
  constructor
  · intro language slashes noDouble noSingle noColon
    rw [strip_slashLanguage slashes (opensAfter_of_plain noDouble noSingle noColon)]
    constructor
    · intro unspoilt
      exact congrArg withoutBlankLines (scan_line_first blocksApart_slash unspoilt).symm
    · intro comment rest left right found isBlock ends spoilt next
      have begins : slashBlock.begins? code = some comment := by
        rw [slashKinds, first?_cons, first?_single] at found
        cases line : slashLine.begins? code with
        | some hidden =>
          rw [line, Option.some_or] at found
          obtain rfl := Option.some.inj found
          rw [(eq_append_of_begins? line).2.2] at isBlock
          cases isBlock
        | none => rwa [line, Option.none_or] at found
      refine ⟨congrArg withoutBlankLines ?_, ends ▸ scan_comment found⟩
      exact scan_of_spoilt (by decide) begins ends spoilt next
  · intro noDouble unspoilt
    have same := scan_line_first blocksApart_hash unspoilt
    have still : isUnspoilt [singleQuoted, doubleQuoted] (scan [hashLine] code) = true :=
      (Bool.and_eq_true_iff.mp unspoilt).2
    have clean : ∀ c ∈ doubleQuoted.opening.text,
        c ∉ scan [singleQuoted, doubleQuoted] (scan [hashLine] code) := by
      intro c opens left
      obtain rfl : c = '"' := by simpa [doubleQuoted, CommentKind.opening] using opens
      exact noDouble (same ▸ left)
    rw [strip_python]
    exact congrArg withoutBlankLines (same.trans (scan_block_first still clean)).symm

/-- Openings in comments of another kind, without harm. -/
def nestedSlashes : Text := "f(); // /* x\n/* y // z\n w */ g();\n\n/* u */ // v */\nh();"

def nestedQuotes : Text :=
  "f() # ''' x\n''' y # z\n \"\"\" w ''' + g()\n\"\"\" '''u'''\n# v \n\"\"\"\nh()"

/-- A block that loses its end to the line comment in it, and the block of which it takes the
end. -/
def spoiltSlashes : Text := "/* // */\ncode();\n/* x */\nrest"

def spoiltQuotes : Text := "'''a # b'''\ncode()\n'''x'''\nrest"

theorem strip_nested_comments :
    (isUnspoilt slashKinds nestedSlashes = true ∧
      strip .go nestedSlashes = "f(); \n g();\nh();".toList) ∧
    strip .cFamily spoiltSlashes = "rest".toList ∧
    isUnspoilt quoteKinds nestedQuotes = true ∧
      strip .python nestedQuotes = "f() \n + g()\nh()".toList := by
  have slashes : isUnspoilt slashKinds nestedSlashes = true := by decide +kernel
  have quotes : isUnspoilt quoteKinds nestedQuotes = true := by decide +kernel
  refine ⟨⟨slashes, ?_⟩, ?_, quotes, ?_⟩
  · have read := ((strip_eq_scan_of_unspoilt nestedSlashes).1 .go (by decide) (by decide)
      (by decide) (by decide)).1
    exact (read slashes).trans (by decide +kernel)
  · have lost := ((strip_eq_scan_of_unspoilt spoiltSlashes).1 .cFamily (by decide) (by decide)
      (by decide) (by decide)).2
    exact (lost ⟨slashBlock, "/* // */".toList, "\ncode();\n/* x */\nrest".toList⟩
      "code();\n/* x */\nrest".toList "code();\n/* x ".toList "\nrest".toList
      (by decide +kernel) rfl rfl (by decide +kernel) (by decide +kernel)).1.trans
      (by decide +kernel)
  · have read := (strip_eq_scan_of_unspoilt nestedQuotes).2 (by decide +kernel) quotes
    exact read.trans (by decide +kernel)

/-- The code between a spoilt block and the next end of a block disappears. -/
theorem strip_loses_code :
    ('"' ∉ spoiltSlashes ∧ '\'' ∉ spoiltSlashes ∧ ':' ∉ spoiltSlashes) ∧
    strip .go spoiltSlashes = "rest".toList ∧
    withoutBlankLines (scan slashKinds spoiltSlashes) = "code();\nrest".toList ∧
    strip .python spoiltQuotes = "x'''\nrest".toList ∧
    withoutBlankLines (scan quoteKinds spoiltQuotes) = "code()\nrest".toList := by
  decide +kernel

end CodeWiki.Comment
