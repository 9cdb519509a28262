import Dynet.Ingress.UdpFraming
import Dynet.Lib.Truncation

/-! The end of a VMess response body: what the chunk reader makes of a stream that stops
in the response header, in a chunk or behind one, or after the chunk that closes it. -/
namespace Dynet.Ingress.Vmess
open Dynet.Lib.Checks Dynet.Lib.StreamReader Dynet.Lib.StreamReader.Relay

namespace Body
variable {aead : Aead} {session : Session}

theorem idle_breaks (counter : UInt16) {part : Bytes} (short : part.length < 2) :
    Breaks (readChunk aead session) ⟨true,counter⟩ part .closed := by
  intro relay state rest running
  have wants : readChunk aead session relay.state = readLength aead session ⟨true,counter⟩ := by rw [state]; rfl
  have resumed : advance (readChunk aead session) relay (readLength aead session ⟨true,counter⟩) = relay :=
    resume (readChunk aead session) rest wants
  obtain ⟨waiting,left⟩ := pushAll_short (readChunk aead session) relay running .closed 2
    (readCiphertext aead session ⟨true,counter⟩) part short
  exact ⟨relay.state,waiting,by rw [← left]; exact congrArg (pushAll _ · part) resumed.symm⟩

/-- A chunk that closes the stream: one of no bytes, or one whose payload is empty. -/
def Closing (aead : Aead) (session : Session) (counter : UInt16) (bytes : Bytes) : Prop :=
  bytes = [0,0] ∨ encryptChunk aead session counter [] = .ok bytes

variable (lawful : aead.Lawful)
include lawful

theorem chunk_breaks {counter : UInt16} {payload chunk part : Bytes}
    (encoded : encryptChunk aead session counter payload = .ok chunk) (cut : part <+: chunk)
    (shorter : part.length < chunk.length) :
    Breaks (readChunk aead session) ⟨true,counter⟩ part (if part.length < 2 then .closed else .failed chunkEof) := by
  split
  · rename_i early
    exact idle_breaks counter early
  · rename_i late
    intro relay state rest running
    obtain ⟨size,ciphertext,rfl,two,-,next,-⟩ := length_read lawful encoded
    obtain ⟨later,rfl⟩ : ∃ later, part = size ++ later :=
      (List.prefix_of_prefix_length_le (List.prefix_append size _) cut (by omega)).imp fun _ => Eq.symm
    rw [List.length_append,List.length_append] at shorter
    have wants : readChunk aead session relay.state = readLength aead session ⟨true,counter⟩ := by rw [state]; rfl
    have sized := pushAll_start (readChunk aead session) rest running wants size two
    obtain ⟨waiting,left⟩ := pushAll_short (readChunk aead session) relay running (.failed chunkEof) ciphertext.length
      (decryptChunk aead session ⟨true,counter⟩) later (by omega)
    exact ⟨relay.state,waiting,by rw [pushAll_append,sized,next]; exact left⟩

theorem closing_stops {counter : UInt16} {bytes : Bytes} (closing : Closing aead session counter bytes) :
    Stops (readChunk aead session) ⟨true,counter⟩ bytes .closed := by
  intro relay state rest running
  have wants : readChunk aead session relay.state = readLength aead session ⟨true,counter⟩ := by rw [state]; rfl
  obtain rfl | encoded := closing
  · have sized := pushAll_start (readChunk aead session) rest running wants [0,0] rfl
    exact ⟨relay.state,sized⟩
  · obtain ⟨size,ciphertext,rfl,two,-,next,opened⟩ := length_read lawful encoded
    have sized := pushAll_start (readChunk aead session) rest running wants size two
    refine ⟨⟨true,counter + 1⟩,?_⟩
    rw [pushAll_append,sized,next,pushAll_exactly (readChunk aead session) relay running _ _ _ ciphertext rfl,opened,
      if_pos rfl]
    rfl

theorem closing_breaks {counter : UInt16} {bytes part : Bytes} (closing : Closing aead session counter bytes)
    (cut : part <+: bytes) (shorter : part.length < bytes.length) :
    ∃ stop, Breaks (readChunk aead session) ⟨true,counter⟩ part stop ∧ (stop = .closed ↔ part.length < 2) := by
  obtain rfl | encoded := closing
  · exact ⟨.closed,idle_breaks counter shorter,iff_of_true rfl shorter⟩
  · refine ⟨_,chunk_breaks lawful encoded cut shorter,?_⟩
    by_cases early : part.length < 2
    · simp [early]
    · simp [early]

theorem header_breaks {header part : Bytes} (valid : validateResponseHeader session.responseAuth header = none)
    (counter : UInt16) (cut : part <+: responseHeader aead session header)
    (shorter : part.length < (responseHeader aead session header).length) :
    ∃ e, Breaks (readChunk aead session) ⟨false,counter⟩ part (.failed e) := by
  obtain ⟨size,body,split,eighteen,opened,-⟩ :=
    header_read lawful valid (.keep ⟨true,counter⟩ (readLength aead session ⟨true,counter⟩))
  have wants : readChunk aead session ⟨false,counter⟩ = readResponseHeader aead session
      (.keep ⟨true,counter⟩ (readLength aead session ⟨true,counter⟩)) := rfl
  rw [split] at cut shorter
  obtain early | late := Nat.lt_or_ge part.length 18
  · refine ⟨headerLengthEof,fun relay state rest running => ?_⟩
    have resumed : advance (readChunk aead session) relay (readResponseHeader aead session
        (.keep ⟨true,counter⟩ (readLength aead session ⟨true,counter⟩))) = relay :=
      resume (readChunk aead session) rest (state ▸ wants)
    obtain ⟨waiting,left⟩ := pushAll_short (readChunk aead session) relay running (.failed headerLengthEof) 18
      (openLength aead session (.keep ⟨true,counter⟩ (readLength aead session ⟨true,counter⟩))) part early
    exact ⟨relay.state,waiting,by rw [← left]; exact congrArg (pushAll _ · part) resumed.symm⟩
  · obtain ⟨later,rfl⟩ : ∃ later, part = size ++ later :=
      (List.prefix_of_prefix_length_le (List.prefix_append size _) cut (by omega)).imp fun _ => Eq.symm
    rw [List.length_append,List.length_append] at shorter
    refine ⟨headerEof,fun relay state rest running => ?_⟩
    have sized := pushAll_start (readChunk aead session) rest running (state ▸ wants) size eighteen
    obtain ⟨waiting,left⟩ := pushAll_short (readChunk aead session) relay running (.failed headerEof) body.length
      (openHeader aead session (.keep ⟨true,counter⟩ (readLength aead session ⟨true,counter⟩))) later (by omega)
    exact ⟨relay.state,waiting,by rw [pushAll_append,sized,opened]; exact left⟩

/-- The reader behind the first `k` chunks, and the counter that the next one is sealed under. -/
theorem chunks_read {counter : UInt16} {payloads chunks : List Bytes} (filled : ∀ payload ∈ payloads, payload ≠ [])
    (encoded : encryptAll aead session counter payloads = .ok chunks) (k : Nat) :
    chunks.length = payloads.length ∧ ∃ between,
      Reads (readChunk aead session) ⟨true,counter⟩ (chunks.take k) (payloads.take k) ⟨true,between⟩ ∧
      (∀ chunk payload, chunks[k]? = some chunk → payloads[k]? = some payload →
        encryptChunk aead session between payload = .ok chunk) ∧
      (payloads.length ≤ k → between = counter + .ofNat payloads.length) := by
  induction payloads generalizing counter chunks k with
  | nil =>
    cases encoded
    refine ⟨rfl,counter,?_,by simp,fun _ => (UInt16.add_zero counter).symm⟩
    rw [List.take_nil]
    exact .nil _
  | cons payload payloads ih =>
    obtain ⟨some,filled⟩ := List.forall_mem_cons.mp filled
    obtain ⟨chunk,here,more⟩ := (bind_ok_iff _ _ _).mp encoded
    obtain ⟨others,rest,done⟩ := (bind_ok_iff _ _ _).mp more
    cases done
    cases k with
    | zero =>
      refine ⟨by rw [List.length_cons,List.length_cons,(ih filled rest 0).1],counter,.nil _,?_,by simp⟩
      intro first other found asked
      obtain rfl : chunk = first := by simpa using found
      obtain rfl : payload = other := by simpa using asked
      exact here
    | succ k =>
      obtain ⟨length,between,read,next,last⟩ := ih filled rest k
      refine ⟨by rw [List.length_cons,List.length_cons,length],between,.cons (chunk_completes lawful some here) read,next,?_⟩
      intro whole
      have turned : (UInt16.ofNat (payloads.length + 1)) = 1 + UInt16.ofNat payloads.length := by
        rw [UInt16.ofNat_add,UInt16.add_comm]
        rfl
      rw [last (by simpa using whole),List.length_cons,turned,UInt16.add_assoc]

/-- A response: its header, chunks that carry data and perhaps one that closes it. -/
def response (aead : Aead) (session : Session) (header : Bytes) (chunks payloads : List Bytes) (closing : Option Bytes) :
    Framed :=
  ⟨responseHeader aead session header,[],chunks.zip payloads ++ closing.toList.map fun bytes => (bytes,[])⟩

theorem serves {header : Bytes} (valid : validateResponseHeader session.responseAuth header = none)
    {payloads chunks : List Bytes} (filled : ∀ payload ∈ payloads, payload ≠ [])
    (encoded : encryptAll aead session 0 payloads = .ok chunks) {closing : Option Bytes}
    (closes : ∀ bytes ∈ closing, Closing aead session (.ofNat payloads.length) bytes) :
    Serves (readChunk aead session) ⟨false,0⟩ (response aead session header chunks payloads closing) 2 where
  opening cut early := by
    have short : ((responseHeader aead session header).take cut).length < (responseHeader aead session header).length := by
      rw [List.length_take]
      exact (Nat.min_le_left _ _).trans_lt early
    obtain ⟨e,breaks⟩ := header_breaks lawful valid 0 (List.take_prefix cut _) short
    exact ⟨e,ends_of_breaks (.nil (ReaderState.mk false 0)) breaks⟩
  chunk k part inside piece := by
    obtain ⟨length,between,read,next,last⟩ := chunks_read lawful filled encoded k
    have opens := header_completes lawful valid 0
    have zipped : (chunks.zip payloads).length = payloads.length := by simp [length]
    have zero : (0 : UInt16) + .ofNat payloads.length = .ofNat payloads.length := UInt16.zero_add _
    obtain within | behind := Nat.lt_or_ge payloads.length k
    · -- The chunk that closes the stream is there whole.
      obtain ⟨bytes,rfl⟩ : ∃ bytes, closing = some bytes := by
        cases closing with
        | none => simp [response,zipped] at inside; omega
        | some bytes => exact ⟨bytes,rfl⟩
      have count : (response aead session header chunks payloads (some bytes)).chunks.length = payloads.length + 1 := by
        simp [response,zipped]
      obtain rfl : k = payloads.length + 1 := by omega
      have nothing : part = [] := by
        obtain none | ⟨chunk,here,-⟩ := piece
        · exact none
        · have past := (List.getElem?_eq_some_iff.mp here).1
          omega
      have all : (response aead session header chunks payloads (some bytes)).chunks.take (payloads.length + 1) =
          chunks.zip payloads ++ [(bytes,[])] := by
        rw [← count,List.take_length]
        rfl
      have everything : chunks.take (payloads.length + 1) = chunks ∧ payloads.take (payloads.length + 1) = payloads :=
        ⟨List.take_of_length_le (by omega),List.take_of_length_le (by omega)⟩
      rw [everything.1,everything.2,last (by omega),zero] at read
      refine ⟨.closed,fun fragments whole => ?_,by simp [nothing]⟩
      have stops := closing_stops lawful (closes bytes rfl)
      have full : fragments.flatten = (responseHeader aead session header::chunks).flatten ++ bytes ++ [] := by
        rw [whole,nothing,Framed.whole,all]
        simp [response,List.map_fst_zip (le_of_eq length)]
      obtain ⟨delivered,outcome⟩ := run_stopped (readChunk aead session) (.cons opens read) stops full [.eof]
      refine ⟨?_,outcome⟩
      rw [delivered,Framed.upTo,all]
      simp [response,List.map_snd_zip (le_of_eq length.symm)]
    · have taken : (response aead session header chunks payloads closing).chunks.take k = (chunks.zip payloads).take k := by
        rw [response,List.take_append_of_le_length (by omega)]
      have firsts : ((response aead session header chunks payloads closing).chunks.take k).map Prod.fst = chunks.take k := by
        rw [taken,List.zip,List.take_zipWith,← List.zip,List.map_fst_zip (by simp [length])]
      have seconds : ((response aead session header chunks payloads closing).chunks.take k).map Prod.snd =
          payloads.take k := by
        rw [taken,List.zip,List.take_zipWith,← List.zip,List.map_snd_zip (by simp [length])]
      obtain ⟨stop,breaks,closed⟩ : ∃ stop, Breaks (readChunk aead session) ⟨true,between⟩ part stop ∧
          (stop = .closed ↔ part.length < 2) := by
        obtain rfl | ⟨⟨chunk,payload⟩,here,cut,shorter⟩ := piece
        · exact ⟨.closed,idle_breaks between (by decide),iff_of_true rfl (by decide)⟩
        · obtain earlier | final := Nat.lt_or_ge k payloads.length
          · rw [response,List.getElem?_append_left (by omega),List.getElem?_zip_eq_some] at here
            refine ⟨_,chunk_breaks lawful (next chunk payload here.1 here.2) cut shorter,?_⟩
            by_cases early : part.length < 2
            · simp [early]
            · simp [early]
          · obtain rfl : k = payloads.length := by omega
            rw [response,List.getElem?_append_right (by omega),zipped,Nat.sub_self] at here
            obtain ⟨bytes,rfl⟩ : ∃ bytes, closing = some bytes := by
              cases closing with
              | none => simp at here
              | some bytes => exact ⟨bytes,rfl⟩
            obtain ⟨rfl,-⟩ : bytes = chunk ∧ [] = payload := by simpa using here
            rw [last (Nat.le_refl _),zero]
            exact closing_breaks lawful (closes bytes rfl) cut shorter
      have ends := ends_of_chunk opens rfl (by rw [firsts]; exact read) (by rw [seconds]) breaks
      exact ⟨stop,ends,closed⟩
  headed := by
    intro chunk member
    obtain listed | last := List.mem_append.mp member
    · obtain ⟨k,here⟩ := List.mem_iff_getElem?.mp listed
      rw [List.getElem?_zip_eq_some] at here
      obtain ⟨-,between,-,next,-⟩ := chunks_read lawful filled encoded k
      obtain ⟨size,ciphertext,split,two,-⟩ := length_read lawful (next _ _ here.1 here.2)
      rw [split,List.length_append]
      omega
    · obtain ⟨bytes,present,rfl⟩ := List.mem_map.mp last
      obtain rfl | encoded := closes bytes (by simpa using present)
      · exact Nat.le_refl 2
      · obtain ⟨size,ciphertext,split,two,-⟩ := length_read lawful encoded
        simp only [split,List.length_append]
        omega
  positive := by decide

end Body

end Dynet.Ingress.Vmess
