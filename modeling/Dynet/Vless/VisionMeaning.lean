import Dynet.Vless.VisionReader

/-! What a server means by the content of its records, read one by one: its response, its
user id and padded blocks, and what follows the last block. -/
namespace Dynet.Vless

inductive Expects where
  | response (sofar : Bytes)
  | userId
  | block (phase : Phase)

/-- What the content of a record comes to: content, and what follows it. -/
inductive Progress where
  | waits (expects : Expects) (content : Bytes)
  | finishes (command : UnpadCommand) (content rest : Bytes)
  | astray

namespace Progress

def ofReading : Reading → Progress
  | .waits phase content => .waits (.block phase) content
  | .finishes command content rest => .finishes command content rest
  | .invalid _ => .astray

def prepend (front : Bytes) : Progress → Progress
  | .waits expects content => .waits expects (front ++ content)
  | .finishes command content rest => .finishes command (front ++ content) rest
  | .astray => .astray

theorem prepend_nil (progress : Progress) : progress.prepend [] = progress := by
  cases progress <;> rfl

theorem ofReading_prepend (front : Bytes) (reading : Reading) :
    ofReading (reading.prepend front) = (ofReading reading).prepend front := by
  cases reading <;> rfl

end Progress

/-- The user id is read from the front of one record. -/
def readUserId (uuid data : Bytes) : Progress :=
  if data = [] then .waits .userId []
  else if data.take 16 = uuid then .ofReading (Phase.boundary.run (data.drop 16))
  else .astray

def Expects.read (uuid : Bytes) : Expects → Bytes → Progress
  | .response sofar, data => match parseVlessResponse (sofar ++ data) with
    | .more => .waits (.response (sofar ++ data)) []
    | .failed _ => .astray
    | .complete remaining => readUserId uuid remaining
  | .userId, data => readUserId uuid data
  | .block phase, data => .ofReading (phase.run data)

def Progress.resume (uuid later : Bytes) : Progress → Progress
  | .waits expects content => (expects.read uuid later).prepend content
  | .finishes command content rest => .finishes command content (rest ++ later)
  | .astray => .astray

/-- The data in the records, with `raw` behind them. Around the session go only the bytes
behind a record that ends the padding with `direct`. -/
def meant (uuid raw : Bytes) : Expects → List Bytes → Option Bytes
  | _, [] => if raw = [] then some [] else none
  | expects, piece::pieces => match expects.read uuid piece with
    | .waits after content => (meant uuid raw after pieces).map (content ++ ·)
    | .finishes .direct content rest => if pieces = [] then some (content ++ (rest ++ raw)) else none
    | .finishes .endBlock content rest => if raw = [] then some (content ++ (rest ++ pieces.flatten)) else none
    | _ => none

section Meaning
variable {uuid raw : Bytes}

theorem parseVlessResponse_append (data later : Bytes) :
    match parseVlessResponse data with
    | .more => True
    | .failed e => parseVlessResponse (data ++ later) = .failed e
    | .complete remaining => parseVlessResponse (data ++ later) = .complete (remaining ++ later) := by
  match data with
  | [] => trivial
  | [_] => trivial
  | version::addonLength::rest =>
    rw [parseVlessResponse]
    split_ifs with version short
    · rw [List.cons_append,List.cons_append,parseVlessResponse,if_pos version]
    · trivial
    · rw [List.cons_append,List.cons_append,parseVlessResponse,if_neg version,
        if_neg (by rw [List.length_append]; omega),List.drop_append_of_le_length (Nat.le_of_not_lt short)]

theorem ofReading_resume (reading : Reading) (later : Bytes) :
    Progress.ofReading (reading.resume later) = (Progress.ofReading reading).resume uuid later := by
  cases reading with
  | waits phase content => exact Progress.ofReading_prepend content _
  | finishes command content rest => rfl
  | invalid e => rfl

theorem readUserId_found {data : Bytes} (some : data ≠ []) (found : data.take 16 = uuid) :
    readUserId uuid data = .ofReading (Phase.boundary.run (data.drop 16)) := by
  rw [readUserId,if_neg some,if_pos found]

theorem readUserId_append (length : uuid.length = 16) {data later : Bytes} (fine : readUserId uuid data ≠ .astray) :
    readUserId uuid (data ++ later) = (readUserId uuid data).resume uuid later := by
  by_cases empty : data = []
  · subst empty
    exact (Progress.prepend_nil _).symm
  · by_cases found : data.take 16 = uuid
    · have enough : 16 ≤ data.length := by
        have total := congrArg List.length found
        rw [List.length_take,length] at total
        omega
      rw [readUserId_found empty found,readUserId_found (by simp [empty])
        (by rw [List.take_append_of_le_length enough,found]),
        List.drop_append_of_le_length enough,Phase.run_append]
      exact ofReading_resume _ later
    · rw [readUserId,if_neg empty,if_neg found] at fine
      exact absurd rfl fine

theorem Expects.read_append (length : uuid.length = 16) {expects : Expects} {data later : Bytes}
    (fine : expects.read uuid data ≠ .astray) :
    expects.read uuid (data ++ later) = (expects.read uuid data).resume uuid later := by
  cases expects with
  | userId => exact readUserId_append length fine
  | block phase =>
    change Progress.ofReading (phase.run (data ++ later)) = _
    rw [Phase.run_append]
    exact ofReading_resume _ later
  | response sofar =>
    have parsed := parseVlessResponse_append (sofar ++ data) later
    change (match parseVlessResponse (sofar ++ data) with
      | .more => Progress.waits (.response (sofar ++ data)) []
      | .failed _ => .astray
      | .complete remaining => readUserId uuid remaining) ≠ .astray at fine
    rw [Expects.read,Expects.read,← List.append_assoc]
    generalize parseVlessResponse (sofar ++ data) = response at parsed fine
    cases response with
    | more => exact (Progress.prepend_nil _).symm
    | failed e => exact absurd rfl fine
    | complete remaining =>
      rw [parsed]
      exact readUserId_append length fine

/-- A record that changes what is expected and has no content. -/
theorem meant_skip {expects after : Expects} {piece : Bytes} (reads : expects.read uuid piece = .waits after [])
    (pieces : List Bytes) :
    meant uuid raw expects (piece::pieces) = meant uuid raw after pieces := by
  rw [meant,reads]
  simp

theorem meant_congr {expects other : Expects} {piece first : Bytes} (same : expects.read uuid piece = other.read uuid first)
    (pieces : List Bytes) : meant uuid raw expects (piece::pieces) = meant uuid raw other (first::pieces) := by
  rw [meant,meant,same]

/-- Two records mean what one with the content of both means. -/
theorem meant_merge (length : uuid.length = 16) {expects : Expects} {first second content : Bytes} {pieces : List Bytes}
    (means : meant uuid raw expects (first::second::pieces) = some content) :
    meant uuid raw expects ((first ++ second)::pieces) = some content := by
  rw [meant] at means ⊢
  have fine : expects.read uuid first ≠ .astray := by
    intro astray
    rw [astray] at means
    cases means
  rw [Expects.read_append length fine]
  cases reading : expects.read uuid first with
  | astray => exact absurd reading fine
  | waits after front =>
    rw [reading] at means
    simp only [meant] at means
    rw [Progress.resume]
    cases next : after.read uuid second with
    | astray => simp [next] at means
    | waits last more =>
      simp only [next,Option.map_map] at means
      simp only [Progress.prepend]
      rw [← means]
      congr 1
      funext content
      exact List.append_assoc _ _ _
    | finishes command more rest =>
      simp only [next] at means
      simp only [Progress.prepend]
      cases command with
      | continueBlock => cases means
      | _ => simp only at means ⊢; split at means <;> simp_all
  | finishes command front rest =>
    rw [reading] at means
    cases command with
    | continueBlock => cases means
    | _ => simp only [Progress.resume] at means ⊢; split at means <;> simp_all

theorem meant_gather (length : uuid.length = 16) {expects : Expects} {piece content : Bytes} {pieces left : List Bytes}
    (means : meant uuid raw expects (piece::(pieces ++ left)) = some content) :
    meant uuid raw expects ((piece::pieces).flatten::left) = some content := by
  induction pieces generalizing piece with
  | nil =>
    rw [List.flatten_cons,List.flatten_nil,List.append_nil]
    exact means
  | cons second pieces ih =>
    have gathered := ih (meant_merge length means)
    simpa using gathered

end Meaning

theorem Phase.run_waits_open {phase after : Phase} {data content : Bytes}
    (waits : phase.run data = .waits after content) : after.Open := by
  induction data generalizing phase content with
  | nil =>
    by_cases finished : ∃ command, phase = .done command
    · obtain ⟨command,rfl⟩ := finished
      rw [Phase.run_done] at waits
      cases waits
    · have unfinished : phase.Open := fun command same => finished ⟨command,same⟩
      rw [Phase.run_nil unfinished] at waits
      cases waits
      exact unfinished
  | cons b data ih =>
    by_cases finished : ∃ command, phase = .done command
    · obtain ⟨command,rfl⟩ := finished
      rw [Phase.run_done] at waits
      cases waits
    · rw [Phase.run_cons fun command same => finished ⟨command,same⟩] at waits
      cases moved : phase.next b with
      | error e =>
        rw [moved] at waits
        cases waits
      | ok reply =>
        obtain ⟨next,out⟩ := reply
        rw [moved] at waits
        dsimp only at waits
        cases reading : next.run data with
        | waits last more =>
          rw [reading] at waits
          cases waits
          exact ih reading
        | finishes command more rest =>
          rw [reading] at waits
          cases waits
        | invalid e =>
          rw [reading] at waits
          cases waits

/-! What a server sends. -/

/-- A response with any addons. -/
def vlessResponse (addons : Bytes) : Bytes := 0::UInt8.ofNat addons.length::addons

/-- The first record that reaches beyond the given bytes holds sixteen bytes there. -/
def IdWhole : Nat → List Bytes → Prop
  | _, [] => True
  | before, piece::pieces => if piece.length ≤ before then IdWhole
    (before - piece.length) pieces else before + 16 ≤ piece.length

instance decidableIdWhole : (before : Nat) → (pieces : List Bytes) → Decidable (IdWhole before pieces)
  | _, [] => .isTrue trivial
  | before, piece::pieces =>
    haveI := decidableIdWhole (before - piece.length) pieces
    inferInstanceAs (Decidable
      (if piece.length ≤ before then IdWhole (before - piece.length) pieces else before + 16 ≤ piece.length))

section Senders
variable {uuid raw content rest : Bytes} {pieces : List Bytes}

theorem parseVlessResponse_whole {addons : Bytes} (small : addons.length < 256) (data : Bytes) :
    parseVlessResponse (vlessResponse addons ++ data) = .complete data := by
  have length : (UInt8.ofNat addons.length).toNat = addons.length := by
    rw [UInt8.toNat_ofNat']
    omega
  rw [vlessResponse,List.cons_append,List.cons_append,parseVlessResponse,if_neg (by decide),length,
    if_neg (by rw [List.length_append]; omega),List.drop_left]

theorem parseVlessResponse_part {addons : Bytes} (small : addons.length < 256) {front more : Bytes}
    (parts : front ++ more = vlessResponse addons) (some : more ≠ []) : parseVlessResponse front = .more := by
  have length : (UInt8.ofNat addons.length).toNat = addons.length := by
    rw [UInt8.toNat_ofNat']
    omega
  have positive := List.length_pos_iff.mpr some
  match front, parts with
  | [], _ => rfl
  | [_], _ => rfl
  | version::addonLength::front, parts =>
    simp only [vlessResponse,List.cons_append,List.cons.injEq] at parts
    obtain ⟨rfl,rfl,rfl⟩ := parts
    rw [parseVlessResponse,if_neg (by decide),length,if_pos (by rw [List.length_append]; omega)]

theorem meant_blocks {phase : Phase} (unfinished : phase.Open)
    (runs : phase.run pieces.flatten = .finishes .endBlock content rest) :
    meant uuid [] (.block phase) pieces = some (content ++ rest) := by
  induction pieces generalizing phase content with
  | nil =>
    rw [List.flatten_nil,Phase.run_nil unfinished] at runs
    cases runs
  | cons piece pieces ih =>
    rw [List.flatten_cons,Phase.run_append] at runs
    rw [meant,Expects.read]
    cases reading : phase.run piece with
    | invalid e =>
      rw [reading] at runs
      cases runs
    | waits after front =>
      rw [reading,Reading.resume] at runs
      have opened := Phase.run_waits_open reading
      cases behind : after.run pieces.flatten with
      | waits next more =>
        rw [behind] at runs
        cases runs
      | invalid e =>
        rw [behind] at runs
        cases runs
      | finishes command more last =>
        rw [behind] at runs
        cases runs
        simp only [Progress.ofReading,ih opened behind,Option.map_some,List.append_assoc]
    | finishes command front last =>
      rw [reading,Reading.resume] at runs
      cases runs
      simp only [Progress.ofReading,if_true]

/-- The raw bytes follow the record that ends the padding with `direct`. -/
theorem meant_direct {phase : Phase} (unfinished : phase.Open) {last : Bytes}
    (runs : phase.run (pieces.flatten ++ last) = .finishes .direct content rest)
    (goes : ∀ command front back, phase.run pieces.flatten ≠ .finishes command front back) :
    meant uuid raw (.block phase) (pieces ++ [last]) = some (content ++ (rest ++ raw)) := by
  induction pieces generalizing phase content with
  | nil =>
    rw [List.flatten_nil,List.nil_append] at runs
    rw [List.nil_append,meant,Expects.read,runs]
    rfl
  | cons piece pieces ih =>
    rw [List.flatten_cons,Phase.run_append] at goes
    rw [List.flatten_cons,List.append_assoc,Phase.run_append] at runs
    rw [List.cons_append,meant,Expects.read]
    cases reading : phase.run piece with
    | invalid e =>
      rw [reading] at runs
      cases runs
    | finishes command front back =>
      rw [reading] at goes
      exact absurd rfl (goes _ _ _)
    | waits after front =>
      rw [reading,Reading.resume] at runs goes
      have opened := Phase.run_waits_open reading
      cases behind : after.run (pieces.flatten ++ last) with
      | waits next more =>
        rw [behind] at runs
        cases runs
      | invalid e =>
        rw [behind] at runs
        cases runs
      | finishes command more back =>
        rw [behind] at runs
        cases runs
        have later := ih opened behind fun command front back same => goes command _ back (by rw [same]; rfl)
        simp only [Progress.ofReading,later,Option.map_some,List.append_assoc]

/-- The records from the one with the user id on, without what comes before the blocks. -/
structure Starts (uuid before data : Bytes) (expects : Expects) (pieces : List Bytes) where
  skipped : List Bytes
  cut : Bytes
  first : Bytes
  later : List Bytes
  whole : pieces = skipped ++ (cut ++ first)::later
  front : skipped.flatten ++ cut = before ++ uuid
  blocks : (first::later).flatten = data
  means : ∀ raw, meant uuid raw expects pieces = meant uuid raw (.block .boundary) (first::later)

theorem readUserId_starts (length : uuid.length = 16) (first : Bytes) :
    readUserId uuid (uuid ++ first) = .ofReading (Phase.boundary.run first) := by
  have some : uuid ++ first ≠ [] := by
    intro none
    rw [(List.append_eq_nil_iff.mp none).1] at length
    cases length
  rw [readUserId_found some (by rw [← length,List.take_left]),← length,List.drop_left]

theorem starts_userId (length : uuid.length = 16) {data : Bytes} (whole : pieces.flatten = uuid ++ data)
    (held : IdWhole 0 pieces) :
    Nonempty (Starts uuid [] data .userId pieces) := by
  induction pieces with
  | nil =>
    rw [(List.append_eq_nil_iff.mp whole.symm).1] at length
    cases length
  | cons piece pieces ih =>
    rw [List.flatten_cons] at whole
    by_cases empty : piece = []
    · subst empty
      obtain ⟨starts⟩ := ih whole held
      refine ⟨[]::starts.skipped,starts.cut,starts.first,starts.later,congrArg ([]::·) starts.whole,starts.front,
        starts.blocks,
        fun raw => ?_⟩
      exact (meant_skip rfl pieces).trans (starts.means raw)
    · have positive := List.length_pos_iff.mpr empty
      rw [IdWhole,if_neg (by omega)] at held
      obtain ⟨first,rfl⟩ : uuid <+: piece :=
        List.prefix_of_prefix_length_le (whole ▸ List.prefix_append uuid data)
          (List.prefix_append piece pieces.flatten) (by omega)
      rw [List.append_assoc,List.append_cancel_left_eq] at whole
      have same : Expects.userId.read uuid (uuid ++ first) = (Expects.block .boundary).read uuid first :=
        readUserId_starts length first
      exact ⟨[],uuid,first,pieces,rfl,rfl,whole,fun raw => meant_congr same pieces⟩

theorem starts_response (length : uuid.length = 16) {addons sofar more data : Bytes} (small : addons.length < 256)
    (parts : sofar ++ more = vlessResponse addons) (some : more ≠ []) (whole : pieces.flatten = more ++ (uuid ++ data))
    (held : IdWhole more.length pieces) : Nonempty (Starts uuid more data (.response sofar) pieces) := by
  induction pieces generalizing sofar more with
  | nil => exact absurd (List.append_eq_nil_iff.mp whole.symm).1 some
  | cons piece pieces ih =>
    rw [List.flatten_cons] at whole
    rw [IdWhole] at held
    rcases Nat.lt_or_ge piece.length more.length with short | long
    · rw [if_pos (Nat.le_of_lt short)] at held
      obtain ⟨left,rfl⟩ : piece <+: more :=
        List.prefix_of_prefix_length_le (whole ▸ List.prefix_append piece pieces.flatten) (List.prefix_append more _)
          (Nat.le_of_lt short)
      rw [List.append_assoc,List.append_cancel_left_eq] at whole
      rw [List.length_append,Nat.add_sub_cancel_left] at held
      have left_some : left ≠ [] := by
        rintro rfl
        rw [List.append_nil] at short
        exact Nat.lt_irrefl _ short
      rw [← List.append_assoc] at parts
      obtain ⟨starts⟩ := ih parts left_some whole held
      refine ⟨piece::starts.skipped,starts.cut,starts.first,starts.later,congrArg (piece::·) starts.whole,?_,
        starts.blocks,fun raw => ?_⟩
      · rw [List.flatten_cons,List.append_assoc,starts.front,List.append_assoc]
      · refine (meant_skip ?_ pieces).trans (starts.means raw)
        rw [Expects.read,parseVlessResponse_part small parts left_some]
    · obtain ⟨rest,rfl⟩ : more <+: piece :=
        List.prefix_of_prefix_length_le (whole ▸ List.prefix_append more _) (List.prefix_append piece pieces.flatten) long
      rw [List.append_assoc,List.append_cancel_left_eq] at whole
      have parsed : parseVlessResponse (sofar ++ (more ++ rest)) = .complete rest := by
        rw [← List.append_assoc,parts]
        exact parseVlessResponse_whole small rest
      by_cases empty : rest = []
      · subst empty
        rw [List.append_nil,if_pos (Nat.le_refl _),Nat.sub_self] at held
        obtain ⟨starts⟩ := starts_userId length whole held
        refine ⟨(more ++ [])::starts.skipped,starts.cut,starts.first,starts.later,congrArg (_::·) starts.whole,?_,
          starts.blocks,
          fun raw => ?_⟩
        · rw [List.flatten_cons,List.append_nil,List.append_assoc,starts.front,List.nil_append]
        · refine (meant_skip ?_ pieces).trans (starts.means raw)
          rw [Expects.read,parsed]
          rfl
      · have positive := List.length_pos_iff.mpr empty
        rw [List.length_append,if_neg (by omega)] at held
        obtain ⟨first,rfl⟩ : uuid <+: rest :=
          List.prefix_of_prefix_length_le (whole ▸ List.prefix_append uuid data)
            (List.prefix_append rest pieces.flatten) (by omega)
        rw [List.append_assoc,List.append_cancel_left_eq] at whole
        refine ⟨[],more ++ uuid,first,pieces,by rw [List.nil_append,List.append_assoc],rfl,whole,
          fun raw => meant_congr ?_ pieces⟩
        rw [Expects.read,parsed]
        exact readUserId_starts length first

end Senders

/-- The application data of a server: its response, its user id and padded blocks, the user
id being whole in its record. -/
structure ServerData (uuid : Uuid) (addons : Bytes) (padded : PaddedStream) (pieces : List Bytes) : Prop where
  small : addons.length < 256
  whole : pieces.flatten = vlessResponse addons ++ padded.bytes uuid
  held : IdWhole (vlessResponse addons).length pieces

section Servers
variable {uuid : Uuid} {addons : Bytes} {padded : PaddedStream} {pieces : List Bytes}

theorem ServerData.starts (server : ServerData uuid addons padded pieces) :
    Nonempty (Starts uuid.bytes (vlessResponse addons) (padded.body ++ padded.tail) (.response []) pieces) :=
  starts_response uuid.length server.small (List.nil_append _) (by simp [vlessResponse]) server.whole server.held

theorem boundary_is_open : Phase.boundary.Open := fun _ impossible => by cases impossible

theorem ServerData.meant_end (server : ServerData uuid addons padded pieces) (final : padded.final = .endBlock) :
    meant uuid.bytes [] (.response []) pieces = some (padded.content ++ padded.tail) := by
  obtain ⟨starts⟩ := server.starts
  rw [starts.means]
  refine meant_blocks boundary_is_open ?_
  rw [starts.blocks,← final]
  exact Phase.run_body padded padded.tail

theorem ServerData.meant_direct {front : List Bytes} {last : Bytes}
    (server : ServerData uuid addons padded (front ++ [last]))
    (final : padded.final = .direct)
    (goes : front.flatten.length < (vlessResponse addons ++ (uuid.bytes ++ padded.body)).length)
    (raw : Bytes) : meant uuid.bytes raw (.response []) (front ++ [last]) = some
    (padded.content ++ (padded.tail ++ raw)) := by
  obtain ⟨skipped,cut,first,later,whole,before,blocks,means⟩ := server.starts
  rw [means]
  have runs : Phase.boundary.run (first::later).flatten = .finishes .direct padded.content padded.tail := by
    rw [blocks,← final]
    exact Phase.run_body padded padded.tail
  rcases List.eq_nil_or_concat later with rfl | ⟨middle,ending,rfl⟩
  · rw [List.flatten_cons,List.flatten_nil,List.append_nil] at runs
    exact @Dynet.Vless.meant_direct uuid.bytes raw _ _ [] _ boundary_is_open first runs
      (by rw [List.flatten_nil,Phase.run_nil boundary_is_open]; simp)
  · rw [List.concat_eq_append] at runs blocks whole ⊢
    rw [← List.cons_append,← List.append_assoc] at whole
    obtain ⟨rfl,same⟩ := List.append_inj' whole rfl
    cases same
    rw [← List.cons_append] at runs blocks ⊢
    rw [List.flatten_append,List.flatten_singleton] at runs blocks
    have short : (first::middle).flatten.length < padded.body.length := by
      have total := congrArg List.length before
      simp only [List.flatten_append,List.flatten_cons,List.length_append] at goes total ⊢
      omega
    obtain ⟨more,parts⟩ : (first::middle).flatten <+: padded.body :=
      List.prefix_of_prefix_length_le (blocks ▸ List.prefix_append _ _) (List.prefix_append _ padded.tail)
        (Nat.le_of_lt short)
    refine Dynet.Vless.meant_direct boundary_is_open runs fun command content rest finishes => ?_
    -- A body ends with its last block only.
    have body := Phase.run_body padded []
    rw [List.append_nil,← parts,Phase.run_append,finishes] at body
    injection body with _ _ left
    rw [← parts,(List.append_eq_nil_iff.mp left).2,List.append_nil] at short
    exact Nat.lt_irrefl _ short

end Servers

end Dynet.Vless
