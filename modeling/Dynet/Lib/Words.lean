import Dynet.Lib.Text

/-! Where a phrase stands in a text of lines and words. A part without a separator lies
in one piece of a joined text; a phrase of several words ends one word of a line, takes
the next words whole and begins the last one. -/
namespace Dynet.Lib.Words
open Dynet.Lib.Text

section Chars
variable {separator : Char}

theorem prefix_append_cons_iff {part : List Char} (free : separator ∉ part) (left right : List Char) :
    part <+: left ++ separator::right ↔ part <+: left := by
  induction left generalizing part with
  | nil =>
    cases part with
    | nil => simp
    | cons c rest =>
      have other : c ≠ separator := fun same => free (same ▸ List.mem_cons_self)
      simp [List.cons_prefix_cons,other]
  | cons d left ih =>
    cases part with
    | nil => simp
    | cons c rest =>
      rw [List.cons_append,List.cons_prefix_cons,List.cons_prefix_cons,
        ih fun member => free (List.mem_cons_of_mem _ member)]

theorem infix_append_cons_iff {part : List Char} (free : separator ∉ part) (some : part ≠ []) (left right : List Char) :
    part <:+: left ++ separator::right ↔ part <:+: left ∨ part <:+: right := by
  induction left with
  | nil =>
    have blocked := prefix_append_cons_iff free [] right
    rw [List.nil_append] at blocked
    simp [List.infix_cons_iff,blocked,some]
  | cons c left ih =>
    have first := prefix_append_cons_iff free (c::left) right
    rw [List.cons_append] at first
    rw [List.cons_append,List.infix_cons_iff,List.infix_cons_iff,ih,first,or_assoc]

theorem intercalate_cons_cons (first second : List Char) (rest : List (List Char)) :
    [separator].intercalate (first::second::rest) = first ++ separator::[separator].intercalate (second::rest) := by
  simp [List.intercalate_cons_cons]

theorem forall_mem_intercalate {allowed : Char → Prop} {pieces : List (List Char)} (between : allowed separator)
    (fine : ∀ piece ∈ pieces, ∀ c ∈ piece, allowed c) : ∀ c ∈ [separator].intercalate pieces, allowed c := by
  induction pieces with
  | nil => simp
  | cons first rest ih =>
    obtain ⟨here,later⟩ := List.forall_mem_cons.mp fine
    cases rest with
    | nil => simpa using here
    | cons second rest =>
      rw [intercalate_cons_cons,List.forall_mem_append,List.forall_mem_cons]
      exact ⟨here,between,ih later⟩

theorem infix_intercalate_iff {part : List Char} (free : separator ∉ part) (some : part ≠ []) (pieces : List (List Char)) :
    part <:+: [separator].intercalate pieces ↔ ∃ piece ∈ pieces, part <:+: piece := by
  induction pieces with
  | nil => simp [some]
  | cons first rest ih =>
    cases rest with
    | nil => simp
    | cons second rest =>
      rw [intercalate_cons_cons,infix_append_cons_iff free some,ih]
      simp

/-- The words of a phrase stand at the beginning of a line, the last one perhaps cut. -/
def Begins : List (List Char) → List (List Char) → Prop
  | [], _ => True
  | _::_, [] => False
  | [word], first::_ => word <+: first
  | word::next::words, first::rest => word = first ∧ Begins (next::words) rest

/-- A phrase whose first word ends a word of the line. -/
def Occurs (word : List Char) (words : List (List Char)) : List (List Char) → Prop
  | [] => False
  | first::rest => (word <:+ first ∧ Begins words rest) ∨ Occurs word words rest

theorem append_prefix_iff {word first : List Char} (free : separator ∉ word) (whole : separator ∉ first)
    (more line : List Char) : word ++ separator::more <+: first ++ separator::line ↔ word = first ∧ more <+: line := by
  induction word generalizing first with
  | nil =>
    cases first with
    | nil => simp [List.cons_prefix_cons]
    | cons c rest =>
      have other : separator ≠ c := fun same => whole (same ▸ List.mem_cons_self)
      simp [List.cons_prefix_cons,other]
  | cons d word ih =>
    cases first with
    | nil =>
      have other : d ≠ separator := fun same => free (same ▸ List.mem_cons_self)
      simp [List.cons_prefix_cons,other]
    | cons c rest =>
      have inner := ih (fun member => free (List.mem_cons_of_mem _ member))
        (fun member => whole (List.mem_cons_of_mem _ member))
      rw [List.cons_append,List.cons_append,List.cons_prefix_cons,inner,List.cons.injEq,and_assoc]

theorem append_not_begins {word first : List Char} (whole : separator ∉ first) (more : List Char) :
    ¬ word ++ separator::more <+: first := by
  intro inside
  exact whole (inside.subset (List.mem_append_right _ List.mem_cons_self))

theorem prefix_words_iff {words line : List (List Char)} (free : ∀ word ∈ words, separator ∉ word)
    (whole : ∀ word ∈ line, separator ∉ word) (some : words ≠ []) (lineSome : line ≠ []) :
    [separator].intercalate words <+: [separator].intercalate line ↔ Begins words line := by
  induction words generalizing line with
  | nil => exact absurd rfl some
  | cons word words ih =>
    obtain ⟨here,free⟩ := List.forall_mem_cons.mp free
    obtain ⟨first,line,rfl⟩ := List.exists_cons_of_ne_nil lineSome
    obtain ⟨head,whole⟩ := List.forall_mem_cons.mp whole
    cases words with
    | nil =>
      cases line with
      | nil => simp [Begins]
      | cons second rest =>
        rw [intercalate_cons_cons,List.intercalate_singleton,prefix_append_cons_iff here]
        rfl
    | cons next words =>
      rw [intercalate_cons_cons]
      cases line with
      | nil =>
        rw [List.intercalate_singleton]
        exact iff_of_false (append_not_begins head _) (by simp [Begins])
      | cons second rest =>
        rw [intercalate_cons_cons,append_prefix_iff here head,ih free whole (by simp) (by simp)]
        rfl

theorem append_infix_iff {word first : List Char} (free : separator ∉ word) (whole : separator ∉ first)
    (more line : List Char) : word ++ separator::more <:+: first ++ separator::line ↔
      (word <:+ first ∧ more <+: line) ∨ word ++ separator::more <:+: line := by
  induction first with
  | nil =>
    have front := append_prefix_iff free (List.not_mem_nil (a := separator)) more line
    rw [List.nil_append] at front ⊢
    rw [List.infix_cons_iff,front,List.suffix_nil]
  | cons c first ih =>
    have front := append_prefix_iff free whole more line
    rw [List.cons_append] at front ⊢
    rw [List.infix_cons_iff,front,ih fun member => whole (List.mem_cons_of_mem _ member),List.suffix_cons_iff,
      ← or_assoc,← or_and_right]

theorem infix_words_iff {word : List Char} {words line : List (List Char)} (free : ∀ part ∈ word::words, separator ∉ part)
    (whole : ∀ part ∈ line, separator ∉ part) (some : words ≠ []) :
    [separator].intercalate (word::words) <:+: [separator].intercalate line ↔ Occurs word words line := by
  obtain ⟨next,words,rfl⟩ := List.exists_cons_of_ne_nil some
  obtain ⟨here,later⟩ := List.forall_mem_cons.mp free
  rw [intercalate_cons_cons]
  induction line with
  | nil => simp [Occurs]
  | cons first line ih =>
    obtain ⟨head,whole⟩ := List.forall_mem_cons.mp whole
    cases line with
    | nil =>
      rw [List.intercalate_singleton]
      refine iff_of_false (fun inside => ?_) (by simp [Occurs,Begins])
      exact head (inside.subset (List.mem_append_right _ List.mem_cons_self))
    | cons second rest =>
      rw [intercalate_cons_cons,append_infix_iff here head,ih whole,
        prefix_words_iff later whole (by simp) (by simp)]
      rfl

end Chars

/-- `str::lines`: an empty piece after the last line break is no line, and a line does not
keep the carriage return of its break. -/
def lines (text : String) : List String :=
  let pieces := split '\n' text
  let broken := pieces.dropLast.map fun line =>
    if line.toList.getLast? = some '\r' then String.ofList line.toList.dropLast else line
  match pieces.getLast? with
  | none | some "" => broken
  | some last => broken ++ [last]

def phrase (words : List String) : String := join ' ' words

def quoted (text : String) : String := "\"" ++ text ++ "\""

/-- What is left of a line without the carriage return of its break. -/
def chomp (line : String) : String :=
  if line.toList.getLast? = some '\r' then String.ofList line.toList.dropLast else line

theorem chomp_clean {line : String} (clean : '\r' ∉ line.toList) : chomp line = line :=
  if_neg fun ends => clean (List.mem_of_getLast? ends)

theorem chomp_front (line : String) : (chomp line).toList <+: line.toList := by
  unfold chomp
  split
  · rw [String.toList_ofList]
    exact List.dropLast_prefix _
  · exact List.prefix_rfl

theorem chomp_startsWith {line front : String} (clean : '\r' ∉ front.toList) (starts : startsWith line front = true) :
    startsWith (chomp line) front = true := by
  have before : front.toList <+: line.toList := of_decide_eq_true starts
  unfold chomp
  split
  · rename_i ends
    have shape : line.toList.dropLast ++ ['\r'] = line.toList := List.dropLast_append_getLast? _ ends
    rw [← shape,prefix_append_cons_iff clean] at before
    exact decide_eq_true (by rwa [String.toList_ofList])
  · exact starts

theorem line_inj {first second : String} (free : '\n' ∉ first.toList) (other : '\n' ∉ second.toList) (after behind : String) :
    first ++ ("\n" ++ after) = second ++ ("\n" ++ behind) ↔ first = second ∧ after = behind := by
  constructor
  · intro same
    have lists := congrArg String.toList same
    simp only [String.toList_append] at lists
    change first.toList ++ '\n'::after.toList = second.toList ++ '\n'::behind.toList at lists
    have heads := congrArg (List.takeWhile (· ≠ '\n')) lists
    rw [takeWhile_separator free (.inr ⟨_,rfl⟩),takeWhile_separator other (.inr ⟨_,rfl⟩)] at heads
    rw [heads,List.append_cancel_left_eq,List.cons.injEq] at lists
    exact ⟨String.toList_inj.mp heads,String.toList_inj.mp lists.2⟩
  · rintro ⟨rfl,rfl⟩
    rfl

theorem lines_cons {line : String} (free : '\n' ∉ line.toList) (rest : String) :
    lines (line ++ ("\n" ++ rest)) = chomp line::lines rest := by
  have pieces : split '\n' (line ++ ("\n" ++ rest)) = line::split '\n' rest := by
    unfold split
    rw [String.toList_append,String.toList_append]
    change ((line.toList ++ '\n'::rest.toList).splitOn '\n').map String.ofList = _
    rw [List.splitOn,List.splitOnP_append_cons_of_forall_mem]
    · rw [List.map_cons,String.ofList_toList]
      rfl
    · intro c member
      refine beq_false_of_ne ?_
      rintro rfl
      exact free member
    · exact beq_self_eq_true _
  obtain ⟨first,others,shape⟩ : ∃ first others, split '\n' rest = first::others :=
    List.exists_cons_of_ne_nil (by simp [split,List.splitOn_ne_nil])
  unfold lines
  rw [pieces,shape]
  simp only [List.dropLast_cons_cons,List.map_cons,List.getLast?_cons_cons]
  split <;> rfl

theorem lines_free {text line : String} (listed : line ∈ lines text) : '\n' ∉ line.toList := by
  have broken {part : String} (member : part ∈ (split '\n' text).dropLast.map chomp) : '\n' ∉ part.toList := by
    obtain ⟨piece,listed,rfl⟩ := List.mem_map.mp member
    exact fun inside => split_free (List.mem_of_mem_dropLast listed) ((chomp_front piece).subset inside)
  unfold lines at listed
  dsimp only at listed
  split at listed
  · exact broken listed
  · exact broken listed
  · rename_i last _ found
    rcases List.mem_append.mp listed with front | ends
    · exact broken front
    · rw [List.mem_singleton.mp ends]
      exact split_free (List.mem_of_getLast? found)

theorem lines_join (parts : List String) (last : String) (some : last ≠ "")
    (free : ∀ part ∈ parts ++ [last], '\n' ∉ part.toList) (plain : ∀ part ∈ parts, '\r' ∉ part.toList) :
    lines (join '\n' (parts ++ [last])) = parts ++ [last] := by
  have kept : parts.map chomp = parts :=
    (List.map_congr_left fun part member => chomp_clean (plain part member)).trans (List.map_id _)
  unfold lines
  rw [split_join '\n' _ (by simp) free]
  simp only [List.dropLast_concat,List.getLast?_concat]
  exact congrArg (· ++ [last]) kept

theorem contains_iff (text part : String) : contains text part = true ↔ part.toList <:+: text.toList :=
  decide_eq_true_iff

theorem contains_join_iff {separator : Char} {part : String} (free : separator ∉ part.toList) (some : part ≠ "")
    (parts : List String) : contains (join separator parts) part = true ↔ ∃ piece ∈ parts, contains piece part = true := by
  have nonempty : part.toList ≠ [] := fun empty => some (String.toList_eq_nil_iff.mp empty)
  rw [contains_iff,join,String.toList_ofList,infix_intercalate_iff free nonempty]
  simp [contains_iff]

theorem contains_phrase_iff {word : String} {words line : List String} (free : ∀ part ∈ word::words, ' ' ∉ part.toList)
    (whole : ∀ part ∈ line, ' ' ∉ part.toList) (some : words ≠ []) :
    contains (phrase line) (phrase (word::words)) = true ↔
      Occurs word.toList (words.map String.toList) (line.map String.toList) := by
  rw [contains_iff,phrase,phrase,join,join,String.toList_ofList,String.toList_ofList,List.map_cons]
  refine infix_words_iff ?_ ?_ (by simpa using some)
  · simpa using free
  · simpa using whole

/-- Tabs in front of a line hold no part that is free of them. -/
theorem contains_indented_iff {part : String} (free : '\t' ∉ part.toList) (some : part ≠ "") (text : String) :
    contains ("\t\t" ++ text) part = true ↔ contains text part = true := by
  have nonempty : part.toList ≠ [] := fun empty => some (String.toList_eq_nil_iff.mp empty)
  have one := infix_append_cons_iff free nonempty [] text.toList
  have two := infix_append_cons_iff free nonempty [] ('\t'::text.toList)
  rw [contains_iff,contains_iff,String.toList_append]
  simp only [List.nil_append,List.infix_nil,nonempty,false_or] at one two
  exact two.trans one

end Dynet.Lib.Words
