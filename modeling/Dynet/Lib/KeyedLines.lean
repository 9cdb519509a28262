import Mathlib.Data.List.Basic

/-! A text of lines `key=value`. The keys have no line break; a value may have one, and
then it can run over into the line of the next key. -/
namespace Dynet.Lib.KeyedLines

def keyed (parts : List (String × String)) : String :=
  String.join (parts.map fun (key,value) => key ++ "=" ++ value ++ "\n")

/-- From the first part that differs, a value of the second text goes on with the key of
the next line of the first, and from there both read the same. -/
inductive Spills : List (String × String) → List (String × String) → Prop
  | here (key value next own other : String) (after behind : List (String × String))
      (same : own ++ "\n" ++ keyed after = other ++ "\n" ++ keyed behind) :
      Spills ((key,value)::(next,own)::after) ((key,value ++ "\n" ++ next ++ "=" ++ other)::behind)
  | later (part : String × String) {after behind : List (String × String)} (spills : Spills after behind) :
      Spills (part::after) (part::behind)

@[simp] theorem keyed_nil : keyed [] = "" := rfl

theorem keyed_cons (key value : String) (rest : List (String × String)) :
    keyed ((key,value)::rest) = key ++ ("=" ++ (value ++ ("\n" ++ keyed rest))) := by
  simp [keyed,String.join_cons,String.append_assoc]

theorem spills_keyed {first second : List (String × String)} (spills : Spills first second) :
    keyed first = keyed second := by
  induction spills with
  | here key value next own other after behind same =>
    rw [String.append_assoc,String.append_assoc] at same
    simp only [keyed_cons,String.append_assoc,same]
  | later part _ ih =>
    obtain ⟨key,value⟩ := part
    rw [keyed_cons,keyed_cons,ih]

/-- Two values of one key: both end together, or one goes on where the other ended. -/
theorem value_cases {first second after behind : String} (same : first ++ ("\n" ++ after) = second ++ ("\n" ++ behind)) :
    first = second ∧ after = behind ∨ (∃ excess, second = first ++ ("\n" ++ excess) ∧ after = excess ++ ("\n" ++ behind)) ∨
      ∃ excess, first = second ++ ("\n" ++ excess) ∧ behind = excess ++ ("\n" ++ after) := by
  have goes {short long rest other : String} {tail : List Char} (shape : long.toList = short.toList ++ tail)
      (left : '\n'::rest.toList = tail ++ '\n'::other.toList) :
      short = long ∧ rest = other ∨ ∃ excess, long = short ++ ("\n" ++ excess) ∧ rest = excess ++ ("\n" ++ other) := by
    cases tail with
    | nil =>
      rw [List.append_nil] at shape
      exact .inl ⟨(String.toList_inj.mp shape).symm,String.toList_inj.mp (List.cons.inj left).2⟩
    | cons c excess =>
      obtain ⟨rfl,more⟩ := List.cons.inj left
      refine .inr ⟨String.ofList excess,String.toList_inj.mp ?_,String.toList_inj.mp ?_⟩
      · rw [shape]
        simp
      · rw [more]
        simp
  have lists := congrArg String.toList same
  simp only [String.toList_append] at lists
  rcases List.append_eq_append_iff.mp lists with ⟨tail,shape,left⟩ | ⟨tail,shape,left⟩
  · rcases goes shape left with equal | excess
    · exact .inl equal
    · exact .inr (.inl excess)
  · rcases goes shape left with equal | excess
    · exact .inl ⟨equal.1.symm,equal.2.symm⟩
    · exact .inr (.inr excess)

/-- What stands before a line break behind a key without one holds the key. -/
theorem key_excess {key rest excess behind : String} (free : '\n' ∉ key.toList)
    (same : key ++ ("=" ++ rest) = excess ++ ("\n" ++ behind)) :
    ∃ other, excess = key ++ ("=" ++ other) ∧ rest = other ++ ("\n" ++ behind) := by
  have lists := congrArg String.toList same
  simp only [String.toList_append] at lists
  rw [← List.append_assoc] at lists
  have line : '\n' ∉ key.toList ++ "=".toList := by
    rw [List.mem_append,not_or]
    exact ⟨free,by decide⟩
  have found (other : List Char) (shape : excess.toList = key.toList ++ "=".toList ++ other)
      (left : rest.toList = other ++ '\n'::behind.toList) :
      ∃ other, excess = key ++ ("=" ++ other) ∧ rest = other ++ ("\n" ++ behind) := by
    refine ⟨String.ofList other,String.toList_inj.mp ?_,String.toList_inj.mp ?_⟩
    · rw [shape]
      simp
    · rw [left]
      simp
  rcases List.append_eq_append_iff.mp lists with ⟨other,shape,left⟩ | ⟨tail,shape,left⟩
  · exact found other shape left
  · cases tail with
    | nil =>
      rw [List.append_nil] at shape
      exact found [] (by rw [shape,List.append_nil]) left.symm
    | cons c tail =>
      have breaks : c = '\n' := (List.cons.inj left).1.symm
      rw [shape,breaks] at line
      exact absurd (List.mem_append_right _ List.mem_cons_self) line

theorem spills_of_excess {key value excess : String} {first second : List (String × String)}
    (free : ∀ part ∈ first, '\n' ∉ part.1.toList) (runs : keyed first = excess ++ ("\n" ++ keyed second)) :
    Spills ((key,value)::first) ((key,value ++ ("\n" ++ excess))::second) := by
  cases first with
  | nil =>
    have lists := congrArg String.toList runs
    simp at lists
  | cons part after =>
    obtain ⟨next,own⟩ := part
    rw [keyed_cons] at runs
    obtain ⟨other,rfl,same⟩ := key_excess (free _ List.mem_cons_self) runs
    simp only [← String.append_assoc] at same ⊢
    exact .here key value next own other after second same

theorem keyed_eq_iff (first second : List (String × String)) (keys : first.map (·.1) = second.map (·.1))
    (free : ∀ part ∈ first, '\n' ∉ part.1.toList) :
    keyed first = keyed second ↔ first = second ∨ Spills first second ∨ Spills second first := by
  constructor
  · intro same
    induction first generalizing second with
    | nil =>
      cases second with
      | nil => exact .inl rfl
      | cons part rest => cases keys
    | cons part first ih =>
      cases second with
      | nil => cases keys
      | cons other second =>
        obtain ⟨key,value⟩ := part
        obtain ⟨label,shown⟩ := other
        obtain ⟨same_key,others_keyed⟩ := List.cons.inj keys
        dsimp only at same_key
        subst same_key
        have rest := (List.forall_mem_cons.mp free).2
        rw [keyed_cons,keyed_cons,String.append_right_inj,String.append_right_inj] at same
        rcases value_cases same with ⟨rfl,tails⟩ | ⟨excess,rfl,runs⟩ | ⟨excess,rfl,runs⟩
        · rcases ih second others_keyed rest tails with rfl | spills | spills
          · exact .inl rfl
          · exact .inr (.inl (.later _ spills))
          · exact .inr (.inr (.later _ spills))
        · exact .inr (.inl (spills_of_excess rest runs))
        · have others : ∀ part ∈ second, '\n' ∉ part.1.toList := by
            intro part member
            have twin : part.1 ∈ first.map (·.1) := by
              rw [others_keyed]
              exact List.mem_map_of_mem member
            obtain ⟨own,listed,label⟩ := List.mem_map.mp twin
            rw [← label]
            exact rest own listed
          exact .inr (.inr (spills_of_excess others runs))
  · rintro (rfl | spills | spills)
    · rfl
    · exact spills_keyed spills
    · exact (spills_keyed spills).symm

theorem spills_ne {first second : List (String × String)} (spills : Spills first second) : first ≠ second := by
  induction spills with
  | here key value next own other after behind _ =>
    intro same
    have value_same := congrArg String.length (congrArg Prod.snd (List.cons.inj same).1)
    simp only [String.length_append] at value_same
    have one : "\n".length = 1 := rfl
    omega
  | later part _ ih => exact fun same => ih (List.cons.inj same).2

theorem keyed_append (first second : List (String × String)) : keyed (first ++ second) = keyed first ++ keyed second := by
  simp [keyed]

/-- The value of the last line cannot run over. -/
theorem keyed_last {front : List (String × String)} {key value other : String}
    (same : keyed (front ++ [(key,value)]) = keyed (front ++ [(key,other)])) : value = other := by
  rw [keyed_append,keyed_append,String.append_right_inj,keyed_cons,keyed_cons,String.append_right_inj,
    String.append_right_inj] at same
  exact (String.append_left_inj _).mp same

end Dynet.Lib.KeyedLines
