import Dynet.Service.Artifact

/-! Which files are taken for files that the service control wrote. The digest covers the
payload, and the classifier reads the file by lines: it loses how a line was broken and
whether the last one was. -/
namespace Dynet.Service
open Dynet.Lib Dynet.Lib.Text Dynet.Lib.Words Dynet.Lib.Checks

/-- Distinct payloads have distinct digests, each written in hexadecimal. -/
structure Hashes (digest : String → String) : Prop where
  injective : Function.Injective digest
  hex : ∀ payload, ∀ c ∈ (digest payload).toList, c ∈ "0123456789abcdef".toList

section Recognition
variable (digest : String → String)

def marks (payload : String) : String := ownerMarker ++ "\n" ++ hashPrefix ++ digest payload ++ "\n"

/-- A text with the marks of a payload in front of it, or behind its first line. -/
inductive Sealed : String → String → Prop
  | plain (payload : String) : Sealed (marks digest payload ++ payload) payload
  | script (line body : String) (shebang : startsWith line "#!" = true) (one : '\n' ∉ line.toList) :
      Sealed (line ++ ("\n" ++ (marks digest (line ++ ("\n" ++ body)) ++ body))) (line ++ ("\n" ++ body))

def Script (payload : String) : Prop :=
  ∃ line body, startsWith line "#!" = true ∧ '\n' ∉ line.toList ∧ payload = line ++ ("\n" ++ body)

def rejoin (rest : List String) : String := join '\n' rest ++ "\n"

/-- The text that the lines of a file stand for, when they have room for the marks: every
line broken alike, and a line break at the end. -/
def readBack (content : String) : Option String :=
  match lines content with
  | first::second::rest =>
    if startsWith first "#!" then
      match rest with
      | [] => none
      | third::body => some (first ++ ("\n" ++ (second ++ ("\n" ++ (third ++ ("\n" ++ rejoin body))))))
    else some (first ++ ("\n" ++ (second ++ ("\n" ++ rejoin rest))))
  | _ => none

def Managed (artifact : ServiceArtifact) (entry : Entry) : Prop :=
  classify digest none artifact entry = .ok .ready ∨ classify digest none artifact entry = .ok .managedUpdate

def Written (entry : Entry) : Prop := ∃ payload mode, entry = .file (managedContent digest payload) mode

/-- Exactly the files with a managed content are managed, and one just written is ready. -/
def Recognises (artifact : ServiceArtifact) (entry : Entry) : Prop :=
  (Managed digest artifact entry ↔ Written digest entry) ∧
    classify digest none artifact (.file artifact.content artifact.mode) = .ok .ready

/-- Reading by lines loses nothing of the content, and then the marks are not put before a
script; or it does, and neither the content nor what is read in its place is sealed. -/
def Faithful (content : String) : Prop :=
  if readBack content = some content then ∀ payload, Script payload → content ≠ marks digest payload ++ payload
  else (∀ payload, content ≠ managedContent digest payload) ∧
    ∀ text ∈ readBack content, ∀ payload, ¬ Sealed digest text payload

variable {digest}

theorem marks_append (payload rest : String) : marks digest payload ++ rest =
    ownerMarker ++ ("\n" ++ ((hashPrefix ++ digest payload) ++ ("\n" ++ rest))) := by
  simp only [marks,String.append_assoc]

theorem marker_line : '\n' ∉ ownerMarker.toList ∧ '\r' ∉ ownerMarker.toList ∧ startsWith ownerMarker "#!" = false := by
  decide

theorem managedContent_script {line : String} (shebang : startsWith line "#!" = true) (one : '\n' ∉ line.toList)
    (body : String) : managedContent digest (line ++ ("\n" ++ body)) =
      line ++ ("\n" ++ (marks digest (line ++ ("\n" ++ body)) ++ body)) := by
  have cut : Dynet.Runtime.splitOnce '\n' (line ++ ("\n" ++ body)).toList = some (line.toList,body.toList) := by
    rw [String.toList_append,String.toList_append]
    exact Dynet.Runtime.splitOnce_some_iff.mpr ⟨one,rfl⟩
  unfold managedContent
  rw [cut]
  dsimp only
  rw [String.ofList_toList,String.ofList_toList,if_pos shebang]
  simp only [marks,String.append_assoc]

theorem managedContent_plain {payload : String} (plain : ¬ Script payload) :
    managedContent digest payload = marks digest payload ++ payload := by
  unfold managedContent
  split
  · rename_i line body cut
    obtain ⟨one,shape⟩ := Dynet.Runtime.splitOnce_some_iff.mp cut
    refine if_neg fun shebang => plain ⟨String.ofList line,String.ofList body,shebang,?_,?_⟩
    · rwa [String.toList_ofList]
    · rw [← String.toList_inj,shape]
      simp
  · rfl

theorem managedContent_sealed (payload : String) : Sealed digest (managedContent digest payload) payload := by
  by_cases script : Script payload
  · obtain ⟨line,body,shebang,one,rfl⟩ := script
    rw [managedContent_script shebang one]
    exact .script line body shebang one
  · rw [managedContent_plain script]
    exact .plain payload

theorem sealed_cases {content payload : String} (whole : Sealed digest content payload) :
    content = managedContent digest payload ∨ Script payload ∧ content = marks digest payload ++ payload := by
  cases whole with
  | plain =>
    by_cases script : Script payload
    · exact .inr ⟨script,rfl⟩
    · exact .inl (managedContent_plain script).symm
  | script line body shebang one => exact .inl (managedContent_script shebang one body).symm

theorem hash_line_iff (line payload : String) : startsWith line hashPrefix = true ∧
    digest payload = String.ofList (line.toList.drop hashPrefix.length) ↔ line = hashPrefix ++ digest payload := by
  constructor
  · rintro ⟨front,same⟩
    obtain ⟨rest,shape⟩ := of_decide_eq_true front
    have counted : hashPrefix.length = hashPrefix.toList.length := rfl
    rw [← shape,counted,List.drop_left] at same
    rw [← String.toList_inj,← shape,same,String.toList_append,String.toList_ofList]
  · rintro rfl
    have counted : hashPrefix.length = hashPrefix.toList.length := rfl
    rw [String.toList_append,counted,List.drop_left,String.ofList_toList]
    exact ⟨decide_eq_true (by rw [String.toList_append]; exact List.prefix_append _ _),rfl⟩

theorem verdict_iff (owner line payload : String) :
    (if some owner ≠ some ownerMarker then ResourceState.foreign
    else if startsWith line hashPrefix then
      if digest payload ≠ String.ofList (line.toList.drop hashPrefix.length) then .drifted else .managedUpdate
    else .drifted) = .managedUpdate ↔ owner = ownerMarker ∧ line = hashPrefix ++ digest payload := by
  rw [← hash_line_iff]
  split
  · rename_i foreign
    exact iff_of_false (by simp) fun both => foreign (congrArg some both.1)
  rename_i owned
  have marked : owner = ownerMarker := Option.some.inj (not_not.mp owned)
  split
  · rename_i front
    split
    · rename_i other
      exact iff_of_false (by simp) fun both => other both.2.2
    · rename_i same
      exact iff_of_true rfl ⟨marked,front,not_not.mp same⟩
  · rename_i missing
    exact iff_of_false (by simp) fun both => missing both.2.1

section Hashed
variable (hashes : Hashes digest)
include hashes

theorem digest_line (payload : String) : '\n' ∉ (hashPrefix ++ digest payload).toList ∧
    '\r' ∉ (hashPrefix ++ digest payload).toList := by
  have clean (c : Char) (plain : c ∉ hashPrefix.toList) (other : c ∉ "0123456789abcdef".toList) :
      c ∉ (hashPrefix ++ digest payload).toList := by
    rw [String.toList_append,List.mem_append,not_or]
    exact ⟨plain,fun member => other (hashes.hex payload c member)⟩
  exact ⟨clean _ (by decide) (by decide),clean _ (by decide) (by decide)⟩

theorem digest_inj {first second : String} (same : hashPrefix ++ digest first = hashPrefix ++ digest second) :
    first = second := by
  have lists := congrArg String.toList same
  rw [String.toList_append,String.toList_append,List.append_cancel_left_eq] at lists
  exact hashes.injective (String.toList_inj.mp lists)

/-- The marks tell which payload was sealed. -/
theorem sealed_unique {content first second : String} (one : Sealed digest content first)
    (other : Sealed digest content second) : first = second := by
  have apart {line rest after payload : String} (shebang : startsWith line "#!" = true) (free : '\n' ∉ line.toList)
      (same : line ++ ("\n" ++ rest) = marks digest payload ++ after) : False := by
    rw [marks_append,line_inj free marker_line.1] at same
    rw [same.1,marker_line.2.2] at shebang
    cases shebang
  have digests {left right after behind : String} (same : marks digest left ++ after = marks digest right ++ behind) :
      left = right := by
    rw [marks_append,marks_append,line_inj marker_line.1 marker_line.1,
      line_inj (digest_line hashes _).1 (digest_line hashes _).1] at same
    exact digest_inj hashes same.2.1
  generalize shape : content = shown at other
  cases one with
  | plain =>
    cases other with
    | plain => exact digests shape
    | script line body shebang free => exact (apart shebang free shape.symm).elim
  | script line body shebang free =>
    cases other with
    | plain => exact (apart shebang free shape).elim
    | script otherLine otherBody _ otherFree =>
      exact digests ((line_inj free otherFree _ _).mp shape).2

/-- The marked lines of a file, with the payload that its remaining lines stand for. -/
theorem sealed_plain_iff {first second : String} (plain : startsWith first "#!" = false) (free : '\n' ∉ first.toList)
    (whole : '\n' ∉ second.toList) (body : String) :
    (∃ payload, Sealed digest (first ++ ("\n" ++ (second ++ ("\n" ++ body)))) payload) ↔
      first = ownerMarker ∧ second = hashPrefix ++ digest body := by
  constructor
  · rintro ⟨payload,marked⟩
    generalize shape : first ++ ("\n" ++ (second ++ ("\n" ++ body))) = content at marked
    cases marked with
    | plain =>
      rw [marks_append,line_inj free marker_line.1,line_inj whole (digest_line hashes _).1] at shape
      obtain ⟨marker,hash,rfl⟩ := shape
      exact ⟨marker,hash⟩
    | script line text shebang one =>
      rw [line_inj free one] at shape
      rw [← shape.1,plain] at shebang
      cases shebang
  · rintro ⟨rfl,rfl⟩
    refine ⟨body,?_⟩
    rw [← marks_append]
    exact .plain body

theorem sealed_script_iff {first second third : String} (shebang : startsWith first "#!" = true)
    (free : '\n' ∉ first.toList) (whole : '\n' ∉ second.toList) (unbroken : '\n' ∉ third.toList) (body : String) :
    (∃ payload, Sealed digest (first ++ ("\n" ++ (second ++ ("\n" ++ (third ++ ("\n" ++ body)))))) payload) ↔
      second = ownerMarker ∧ third = hashPrefix ++ digest (first ++ ("\n" ++ body)) := by
  constructor
  · rintro ⟨payload,marked⟩
    generalize shape : first ++ ("\n" ++ (second ++ ("\n" ++ (third ++ ("\n" ++ body))))) = content at marked
    cases marked with
    | plain =>
      rw [marks_append,line_inj free marker_line.1] at shape
      rw [shape.1,marker_line.2.2] at shebang
      cases shebang
    | script line text _ one =>
      rw [marks_append,line_inj free one,line_inj whole marker_line.1,line_inj unbroken (digest_line hashes _).1] at shape
      obtain ⟨rfl,marker,hash,rfl⟩ := shape
      exact ⟨marker,hash⟩
  · rintro ⟨rfl,rfl⟩
    refine ⟨first ++ ("\n" ++ body),?_⟩
    rw [← marks_append]
    exact .script first body shebang free

/-- The classifier takes a file for an older one exactly when what it reads is sealed. -/
theorem ownership_iff (content : String) : ownership digest content = .managedUpdate ↔
    ∃ text ∈ readBack content, ∃ payload, Sealed digest text payload := by
  have free (line : String) (listed : line ∈ lines content) : '\n' ∉ line.toList := lines_free listed
  unfold ownership readBack
  generalize lines content = read at free ⊢
  rcases read with _ | ⟨first,_ | ⟨second,rest⟩⟩
  · simp
  · by_cases shebang : startsWith first "#!"
    all_goals
      simp only [List.head?_cons,Option.filter_some,shebang]
      repeat' split
      all_goals simp_all
  · obtain ⟨freeFirst,free⟩ := List.forall_mem_cons.mp free
    obtain ⟨freeSecond,free⟩ := List.forall_mem_cons.mp free
    cases shebang : startsWith first "#!" with
    | true =>
      simp only [List.head?_cons,Option.filter_some,shebang,if_true,Option.isSome_some,List.drop_succ_cons,List.drop_zero]
      cases rest with
      | nil =>
        simp only [Option.mem_def,reduceCtorEq,false_and,exists_false,iff_false]
        split <;> simp
      | cons third body =>
        obtain ⟨freeThird,-⟩ := List.forall_mem_cons.mp free
        simp only [Option.mem_some,exists_eq_left']
        rw [sealed_script_iff hashes shebang freeFirst freeSecond freeThird]
        have payload : first ++ "\n" ++ (join '\n' body ++ "\n") = first ++ ("\n" ++ rejoin body) := String.append_assoc
        rw [payload]
        exact verdict_iff second third _
    | false =>
      simp only [List.head?_cons,Option.filter_some,shebang,Bool.false_eq_true,if_false,Option.isSome_none,
        Option.mem_some,exists_eq_left']
      rw [sealed_plain_iff hashes shebang freeFirst freeSecond]
      exact verdict_iff first second (rejoin rest)

/-- A managed content that is recognised reads back as it is. -/
theorem written_reads {payload text other : String} (read : readBack (managedContent digest payload) = some text)
    (whole : Sealed digest text other) : text = managedContent digest payload := by
  have hash := digest_line hashes payload
  by_cases script : Script payload
  · obtain ⟨line,body,shebang,one,rfl⟩ := script
    rw [managedContent_script shebang one,marks_append,readBack,lines_cons one,lines_cons marker_line.1,lines_cons hash.1,
      chomp_clean marker_line.2.1,chomp_clean hash.2] at read
    have kept := chomp_startsWith (by decide) shebang
    have free : '\n' ∉ (chomp line).toList := fun inside => one ((chomp_front line).subset inside)
    simp only [kept,if_true,Option.some.injEq] at read
    subst text
    obtain ⟨-,same⟩ := (sealed_script_iff hashes kept free marker_line.1 hash.1 _).mp ⟨other,whole⟩
    obtain ⟨first,rest⟩ := (line_inj one free _ _).mp (digest_inj hashes same)
    rw [managedContent_script shebang one,marks_append,← first,← rest]
  · rw [managedContent_plain script,marks_append,readBack,lines_cons marker_line.1,lines_cons hash.1,
      chomp_clean marker_line.2.1,chomp_clean hash.2] at read
    simp only [marker_line.2.2,Bool.false_eq_true,if_false,Option.some.injEq] at read
    subst text
    obtain ⟨-,same⟩ := (sealed_plain_iff hashes marker_line.2.2 marker_line.1 hash.1 _).mp ⟨other,whole⟩
    rw [← digest_inj hashes same,managedContent_plain script,marks_append]

theorem faithful_iff (content : String) : Faithful digest content ↔
    ((∃ text ∈ readBack content, ∃ payload, Sealed digest text payload) ↔ ∃ payload, content = managedContent digest payload) := by
  unfold Faithful
  split
  · rename_i whole
    simp only [whole,Option.mem_some,exists_eq_left']
    constructor
    · intro clear
      constructor
      · rintro ⟨payload,marked⟩
        rcases sealed_cases marked with written | ⟨script,misplaced⟩
        · exact ⟨payload,written⟩
        · exact absurd misplaced (clear payload script)
      · rintro ⟨payload,rfl⟩
        exact ⟨payload,managedContent_sealed payload⟩
    · rintro same payload script rfl
      obtain ⟨other,written⟩ := same.mp ⟨payload,.plain payload⟩
      have marked : Sealed digest (marks digest payload ++ payload) other := by
        rw [written]
        exact managedContent_sealed other
      rw [← sealed_unique hashes (.plain payload) marked] at written
      obtain ⟨line,body,shebang,one,rfl⟩ := script
      rw [managedContent_script shebang one,marks_append,line_inj marker_line.1 one] at written
      rw [← written.1,marker_line.2.2] at shebang
      cases shebang
  · rename_i lossy
    constructor
    · rintro ⟨unwritten,bare⟩
      refine iff_of_false ?_ fun ⟨payload,written⟩ => unwritten payload written
      rintro ⟨text,read,payload,marked⟩
      exact bare text read payload marked
    · intro same
      -- A managed content that is recognised would read back as it is.
      have neither : ¬ ∃ payload, content = managedContent digest payload := by
        rintro ⟨payload,rfl⟩
        obtain ⟨text,read,other,marked⟩ := same.mpr ⟨payload,rfl⟩
        rw [written_reads hashes read marked] at read
        exact lossy read
      refine ⟨fun payload written => neither ⟨payload,written⟩,fun text read payload marked => ?_⟩
      exact neither (same.mp ⟨text,read,payload,marked⟩)

theorem written_faithful {content payload : String} (written : content = managedContent digest payload)
    (read : readBack content = some content) : Faithful digest content := by
  have whole : Sealed digest content payload := by
    rw [written]
    exact managedContent_sealed payload
  rw [faithful_iff hashes]
  exact iff_of_true ⟨content,read,payload,whole⟩ ⟨payload,written⟩

end Hashed

theorem artifact_managed {spec : ServiceSpec} {paths : ServicePaths} {backend : Backend} {artifact : ServiceArtifact}
    (given : artifactFor digest spec paths backend = .ok artifact) :
    ∃ payload, artifact.content = managedContent digest payload := by
  cases backend with
  | systemd =>
    obtain ⟨content,made,rfl⟩ := (map_ok_iff _ _ _).mp given
    obtain ⟨rest,shape⟩ := unitContent_shape digest made
    exact ⟨_,shape⟩
  | procd =>
    obtain ⟨content,made,rfl⟩ := (map_ok_iff _ _ _).mp given
    obtain ⟨executable,-,made⟩ := (bind_ok_iff _ _ _).mp made
    obtain ⟨config,-,made⟩ := (bind_ok_iff _ _ _).mp made
    obtain ⟨environment,-,made⟩ := (bind_ok_iff _ _ _).mp made
    exact ⟨_,(Except.ok.inj made).symm⟩

/-- Which files the classifier tells apart from those that were written. -/
theorem recognises_iff (hashes : Hashes digest) {spec : ServiceSpec} {paths : ServicePaths} {backend : Backend}
    {artifact : ServiceArtifact} (given : artifactFor digest spec paths backend = .ok artifact) (entry : Entry) :
    Recognises digest artifact entry ↔
      ∀ content mode, entry = .file content mode → content = artifact.content ∨ Faithful digest content := by
  have ready : classify digest none artifact (.file artifact.content artifact.mode) = .ok .ready :=
    classify_ready_iff.mpr ⟨_,rfl,artifactFor_masked given⟩
  obtain ⟨desired,wanted⟩ := artifact_managed given
  rw [Recognises,and_iff_left ready]
  cases entry with
  | file content mode =>
    have only : (∀ shown bits, Entry.file content mode = .file shown bits → shown = artifact.content ∨ Faithful digest shown) ↔
        content = artifact.content ∨ Faithful digest content := by simp
    have written : Written digest (.file content mode) ↔ ∃ payload, content = managedContent digest payload := by
      simp [Written]
    rw [only,written]
    by_cases same : content = artifact.content
    · refine iff_of_true (iff_of_true ?_ ⟨desired,same.trans wanted⟩) (.inl same)
      by_cases permitted : mode &&& 0x1ff = artifact.mode
      · exact .inl (by simp [classify,same,permitted])
      · exact .inr (by simp [classify,same,permitted])
    · have managed : Managed digest artifact (.file content mode) ↔ ownership digest content = .managedUpdate := by
        rcases ownership_cases digest content with state | state | state
        all_goals simp [Managed,classify,same,state]
      rw [managed,ownership_iff hashes,faithful_iff hashes,or_iff_right same]
  | absent => simp [Managed,Written,classify]
  | unreadable error => simp [Managed,Written,classify]
  | other => simp [Managed,Written,classify]

end Recognition

section Sample

def hexDigits (c : Char) : List Char := [5,4,3,2,1,0].map fun place => Nat.digitChar (c.toNat / 16^place % 16)

/-- A stand-in for the hash that no two payloads share: six digits for each character. -/
def hexDigest (payload : String) : String := String.ofList (payload.toList.flatMap hexDigits)

theorem hexDigits_inj {first second : Char} (same : hexDigits first = hexDigits second) : first = second := by
  have digits (m n : Nat) (equal : Nat.digitChar (m % 16) = Nat.digitChar (n % 16)) : m % 16 = n % 16 := by
    have apart : ∀ a < 16, ∀ b < 16, Nat.digitChar a = Nat.digitChar b → a = b := by decide
    exact apart _ (Nat.mod_lt _ (by decide)) _ (Nat.mod_lt _ (by decide)) equal
  simp only [hexDigits,List.map_cons,List.map_nil,List.cons.injEq,and_true] at same
  obtain ⟨five,four,three,two,one,zero⟩ := same
  have five := digits _ _ five
  have four := digits _ _ four
  have three := digits _ _ three
  have two := digits _ _ two
  have one := digits _ _ one
  have zero := digits _ _ zero
  have small (c : Char) : c.toNat < 16^6 := by
    rcases c.valid with low | ⟨_,high⟩
    · exact Nat.lt_trans low (by decide)
    · exact Nat.lt_trans high (by decide)
  have left := small first
  have right := small second
  have codes : first.toNat = second.toNat := by omega
  exact Char.toNat_inj.mp codes

theorem hexDigest_hashes : Hashes hexDigest where
  injective first second same := by
    have blocks (left right : List Char) (equal : left.flatMap hexDigits = right.flatMap hexDigits) : left = right := by
      induction left generalizing right with
      | nil =>
        cases right with
        | nil => rfl
        | cons c right => cases equal
      | cons c left ih =>
        cases right with
        | nil => cases equal
        | cons d right =>
          obtain ⟨head,rest⟩ := List.append_inj equal rfl
          rw [hexDigits_inj head,ih right rest]
    exact String.toList_inj.mp (blocks _ _ (String.ofList_injective same))
  hex payload c member := by
    rw [hexDigest,String.toList_ofList,List.mem_flatMap] at member
    obtain ⟨d,-,listed⟩ := member
    obtain ⟨place,-,rfl⟩ := List.mem_map.mp listed
    have digits : ∀ n < 16, Nat.digitChar n ∈ "0123456789abcdef".toList := by decide
    exact digits _ (Nat.mod_lt _ (by decide))

def hexSpec : ServiceSpec :=
  ⟨some .systemd,"dynet","/usr/bin/dynet","/etc/dynet/dynet.toml","/var/lib/dynet/runtime.db",none⟩

def hexPaths : ServicePaths := ⟨"/etc/systemd/system","/run/systemd/system","/etc/init.d","/sbin/procd"⟩

def hexUnit : ServiceArtifact where
  id := "service.systemd.unit"
  carrier := "/etc/systemd/system"
  fileName := "dynet.service"
  content := ((unitContent hexDigest hexSpec).toOption).getD ""
  mode := 0x1a4

theorem hexUnit_given : artifactFor hexDigest hexSpec hexPaths .systemd = .ok hexUnit := by
  have executable : pathArg "/usr/bin/dynet" = .ok "/usr/bin/dynet" := by decide +kernel
  have config : pathArg "/etc/dynet/dynet.toml" = .ok "/etc/dynet/dynet.toml" := by decide +kernel
  have made : (unitContent hexDigest hexSpec).isOk = true := by
    simp only [unitContent,hexSpec,executable,config]
    rfl
  unfold artifactFor hexUnit
  cases given : unitContent hexDigest hexSpec with
  | ok content => rfl
  | error message =>
    rw [given] at made
    cases made

def earlierPayload : String := "[Service]\nUser=dynet\n"

/-- A unit that an earlier version has written. -/
def earlierUnit : String := marks hexDigest earlierPayload ++ earlierPayload

/-- The same one whose last line break was removed, and which an apply writes over. -/
def openUnit : String := marks hexDigest earlierPayload ++ "[Service]\nUser=dynet"

theorem earlierUnit_reads {body : String} (listed : lines body = ["[Service]","User=dynet"]) :
    readBack (marks hexDigest earlierPayload ++ body) = some earlierUnit := by
  have hash := digest_line hexDigest_hashes earlierPayload
  rw [marks_append,readBack,lines_cons marker_line.1,lines_cons hash.1,chomp_clean marker_line.2.1,chomp_clean hash.2,
    listed]
  simp only [marker_line.2.2,Bool.false_eq_true,if_false,earlierUnit,marks_append]
  rfl

theorem earlierUnit_written : earlierUnit = managedContent hexDigest earlierPayload := by
  refine (managedContent_plain ?_).symm
  rintro ⟨line,body,shebang,one,shape⟩
  have payload : earlierPayload = "[Service]" ++ ("\n" ++ "User=dynet\n") := by decide
  rw [payload,line_inj (by decide) one] at shape
  rw [← shape.1] at shebang
  exact absurd shebang (by decide)

theorem earlierUnit_faithful {content : String} (same : content = earlierUnit) : Faithful hexDigest content := by
  refine written_faithful hexDigest_hashes (same.trans earlierUnit_written) ?_
  rw [same]
  exact @earlierUnit_reads earlierPayload (by decide)

theorem hexUnit_recognised : Recognises hexDigest hexUnit (.file hexUnit.content 0x1a4) ∧
    Recognises hexDigest hexUnit (.file earlierUnit 0x1a4) := by
  constructor
  · exact (recognises_iff hexDigest_hashes hexUnit_given _).mpr fun _ _ same => .inl (Entry.file.inj same).1.symm
  · exact (recognises_iff hexDigest_hashes hexUnit_given _).mpr fun _ _ same =>
      .inr (earlierUnit_faithful (Entry.file.inj same).1.symm)

theorem openUnit_managed : Hashes hexDigest ∧ artifactFor hexDigest hexSpec hexPaths .systemd = .ok hexUnit ∧
    ¬ Recognises hexDigest hexUnit (.file openUnit 0x1a4) := by
  refine ⟨hexDigest_hashes,hexUnit_given,?_⟩
  rintro ⟨recognises,-⟩
  have read : readBack openUnit = some earlierUnit := @earlierUnit_reads "[Service]\nUser=dynet" (by decide)
  have lossy : readBack openUnit ≠ some openUnit := by
    rw [read,openUnit,earlierUnit]
    intro same
    have lists := congrArg String.toList (Option.some.inj same)
    rw [String.toList_append,String.toList_append,List.append_cancel_left_eq] at lists
    exact absurd lists (by decide)
  have older : ownership hexDigest openUnit = .managedUpdate :=
    (ownership_iff hexDigest_hashes openUnit).mpr ⟨_,read,_,.plain _⟩
  have managed : Managed hexDigest hexUnit (.file openUnit 0x1a4) := by
    by_cases same : openUnit = hexUnit.content
    · exact .inl (classify_ready_iff.mpr ⟨0x1a4,by rw [same],rfl⟩)
    · exact .inr (by simp [classify,same,older])
  obtain ⟨payload,_,same⟩ := recognises.mp managed
  have written : openUnit = managedContent hexDigest payload := (Entry.file.inj same).1
  have whole : readBack (managedContent hexDigest payload) = some _ := written ▸ read
  rw [written_reads hexDigest_hashes whole (.plain _),← written] at whole
  exact lossy whole

end Sample

end Dynet.Service
