import Little64.Library.LittleEndian

/-! The packets of the remote debugging protocol: frames in a stream of acknowledgements and noise. -/

namespace Little64.Emulator

open LittleEndian

namespace Rsp

def dollar : Byte := 0x24

def hash : Byte := 0x23

def plus : Byte := 0x2B

def minus : Byte := 0x2D

def interruptByte : Byte := 0x03

/-- A transport: what the peer sends before it closes, what was sent to it, and how many bytes it takes until then. -/
structure RspTransport where
  connected : Bool
  noAckMode : Bool
  input : List Byte
  sent : List Byte
  takes : ℕ
  deriving DecidableEq, Repr

inductive Received
  | failure
  | interrupt
  | packet (payload : List Byte)
  deriving DecidableEq, Repr

def checksum (payload : List Byte) : Byte := payload.foldl (· + ·) 0

def fromHexNibble (c : Byte) : Byte :=
  if 0x30 ≤ c ∧ c ≤ 0x39 then c - 0x30
  else if 0x61 ≤ c ∧ c ≤ 0x66 then 10 + c - 0x61
  else if 0x41 ≤ c ∧ c ≤ 0x46 then 10 + c - 0x41
  else 0xFF

def decodeHexByte (hi lo : Byte) : Option Byte :=
  let n1 := fromHexNibble hi
  let n2 := fromHexNibble lo
  if n1 = 0xFF ∨ n2 = 0xFF then none else some (n1 <<< 4 ||| n2)

/-- The bytes up to the end marker, and those behind it. -/
def readBody : List Byte → Option (List Byte × List Byte)
  | [] => none
  | b :: rest => if b = hash then some ([], rest) else (readBody rest).map fun p => (b :: p.1, p.2)

lemma length_readBody {input : List Byte} {p : List Byte × List Byte} (h : readBody input = some p) :
    p.2.length < input.length := by
  induction input generalizing p with
  | nil => cases h
  | cons b rest ih =>
    rw [readBody] at h
    split at h
    · obtain rfl := Option.some.inj h
      exact Nat.lt_succ_self _
    · obtain ⟨q, hq, rfl⟩ := Option.map_eq_some_iff.1 h
      exact (ih hq).trans (Nat.lt_succ_self _)

namespace RspTransport

variable (t : RspTransport)

/-- The peer may close before it has taken all bytes. -/
def sendAll (data : List Byte) : Bool × RspTransport :=
  (decide (data.length ≤ t.takes), { t with sent := t.sent ++ data.take t.takes, takes := t.takes - data.length })

def sendByte (byte : Byte) : Bool × RspTransport := t.sendAll [byte]

/-- The transport with the rest of its input. -/
def withInput (input : List Byte) : RspTransport := { t with input := input }

/-- The loop of `readPacket`: it goes on behind everything that is no good frame. -/
def readLoop (t : RspTransport) : Received × RspTransport :=
  match _hinput : t.input with
  | [] => (.failure, t)
  | first :: rest =>
    if first = interruptByte then (.interrupt, t.withInput rest)
    else if first = plus ∨ first = minus then readLoop (t.withInput rest)
    else if first ≠ dollar then readLoop (t.withInput rest)
    else
      match _hbody : readBody rest with
      | none => (.failure, t.withInput [])
      | some (candidate, hi :: lo :: rest') =>
        -- Digits that are none and a sum that is wrong are answered alike.
        if decodeHexByte hi lo ≠ some (checksum candidate) then
          if t.noAckMode then readLoop (t.withInput rest')
          else if ((t.withInput rest').sendByte minus).1 then readLoop ((t.withInput rest').sendByte minus).2
          else (.failure, ((t.withInput rest').sendByte minus).2)
        else if t.noAckMode then (.packet candidate, t.withInput rest')
        else if ((t.withInput rest').sendByte plus).1 then (.packet candidate, ((t.withInput rest').sendByte plus).2)
        else (.failure, ((t.withInput rest').sendByte plus).2)
      | some _ => (.failure, t.withInput [])
termination_by t.input.length
decreasing_by
  all_goals
    rw [_hinput]
    first
    | exact Nat.lt_succ_self _
    | have hlt := length_readBody _hbody
      simp only [withInput, sendByte, sendAll, List.length_cons] at hlt ⊢
      omega

def readPacket : Received × RspTransport := if t.connected then t.readLoop else (.failure, t)

/-- A digit as the format `%02x` prints it. -/
def hexDigit (n : Byte) : Byte := if n < 10 then 0x30 + n else 0x61 + (n - 10)

def framed (payload : List Byte) : List Byte :=
  dollar :: payload ++ hash :: [hexDigit (checksum payload >>> 4), hexDigit (checksum payload &&& 0x0F)]

def writePacket (payload : List Byte) : Bool × RspTransport :=
  if t.connected then t.sendAll (framed payload) else (false, t)

end RspTransport

/-- What may come before a packet: acknowledgements, bytes outside of frames, and frames whose sum is wrong. -/
inductive Noise
  | acknowledgement (positive : Bool)
  | junk (b : Byte) (hb : b ≠ dollar ∧ b ≠ interruptByte)
  | badFrame (body : List Byte) (hi lo : Byte) (hbody : hash ∉ body)
      (hsum : decodeHexByte hi lo ≠ some (checksum body))

def Noise.bytes : Noise → List Byte
  | acknowledgement positive => [if positive then plus else minus]
  | junk b _ => [b]
  | badFrame body hi lo _ _ => dollar :: body ++ [hash, hi, lo]

def Noise.isFrame : Noise → Bool
  | badFrame .. => true
  | _ => false

/-- A stream that stops before a frame is complete. -/
inductive Torn : List Byte → Prop
  | nothing : Torn []
  | body {body : List Byte} (hbody : hash ∉ body) : Torn (dollar :: body)
  | sum {body digits : List Byte} (hbody : hash ∉ body) (hdigits : digits.length < 2) :
      Torn (dollar :: body ++ hash :: digits)

section Steps

variable {body rest : List Byte}

lemma bytes_badFrame_append {hi lo : Byte} (hbody : hash ∉ body)
    (hsum : decodeHexByte hi lo ≠ some (checksum body)) (rest : List Byte) :
    Noise.bytes (.badFrame body hi lo hbody hsum) ++ rest = dollar :: body ++ hash :: hi :: lo :: rest := by
  rw [Noise.bytes, List.append_assoc]
  rfl

lemma readBody_none (hbody : hash ∉ body) : readBody body = none := by
  induction body with
  | nil => rfl
  | cons b body ih =>
    rw [List.mem_cons, not_or] at hbody
    rw [readBody, if_neg (Ne.symm hbody.1), ih hbody.2]
    rfl

lemma readBody_hash (hbody : hash ∉ body) (rest : List Byte) : readBody (body ++ hash :: rest) = some (body, rest) := by
  induction body with
  | nil => exact if_pos rfl
  | cons b body ih =>
    rw [List.mem_cons, not_or] at hbody
    rw [List.cons_append, readBody, if_neg (Ne.symm hbody.1), ih hbody.2]
    rfl

namespace RspTransport

variable (t : RspTransport)

lemma readLoop_nil : (t.withInput []).readLoop = (.failure, t.withInput []) := by
  rw [readLoop]
  rfl

lemma readLoop_skip {b : Byte} (hdollar : b ≠ dollar) (hinterrupt : b ≠ interruptByte) (rest : List Byte) :
    (t.withInput (b :: rest)).readLoop = (t.withInput rest).readLoop := by
  rw [readLoop]
  simp only [withInput]
  rw [if_neg hinterrupt, if_pos hdollar, ite_self]

lemma readLoop_torn {torn : List Byte} (h : Torn torn) :
    (t.withInput torn).readLoop = (.failure, t.withInput []) := by
  have hinterrupt : dollar ≠ interruptByte := by decide
  have hsign : ¬ (dollar = plus ∨ dollar = minus) := by decide
  cases h with
  | nothing => exact t.readLoop_nil
  | body hbody =>
    rw [readLoop]
    simp only [withInput]
    rw [if_neg hinterrupt, if_neg hsign, if_neg (not_not_intro rfl)]
    split
    · rfl
    · next hread =>
      rw [readBody_none hbody] at hread
      cases hread
    · rfl
  | @sum body digits hbody hdigits =>
    rw [List.cons_append, readLoop]
    simp only [withInput]
    rw [if_neg hinterrupt, if_neg hsign, if_neg (not_not_intro rfl)]
    split
    · rfl
    · next hread =>
      rw [readBody_hash hbody, Option.some.injEq, Prod.mk.injEq] at hread
      rw [hread.2, List.length_cons, List.length_cons] at hdigits
      exact absurd hdigits (by omega)
    · rfl

lemma readLoop_frame (hbody : hash ∉ body) (hi lo : Byte) (rest : List Byte) :
    (t.withInput (dollar :: body ++ hash :: hi :: lo :: rest)).readLoop =
      if decodeHexByte hi lo ≠ some (checksum body) then
        if t.noAckMode then (t.withInput rest).readLoop
        else if ((t.withInput rest).sendByte minus).1 then ((t.withInput rest).sendByte minus).2.readLoop
        else (.failure, ((t.withInput rest).sendByte minus).2)
      else if t.noAckMode then (.packet body, t.withInput rest)
      else if ((t.withInput rest).sendByte plus).1 then (.packet body, ((t.withInput rest).sendByte plus).2)
      else (.failure, ((t.withInput rest).sendByte plus).2) := by
  have hinterrupt : dollar ≠ interruptByte := by decide
  have hsign : ¬ (dollar = plus ∨ dollar = minus) := by decide
  rw [List.cons_append, readLoop]
  simp only [withInput]
  rw [if_neg hinterrupt, if_neg hsign, if_neg (not_not_intro rfl)]
  split
  · next hread =>
    rw [readBody_hash hbody] at hread
    cases hread
  · next hread =>
    rw [readBody_hash hbody, Option.some.injEq, Prod.mk.injEq, List.cons.injEq, List.cons.injEq] at hread
    obtain ⟨rfl, rfl, rfl, rfl⟩ := hread
    rfl
  · next hshort hread =>
    rw [readBody_hash hbody] at hread
    exact absurd (Option.some.inj hread).symm (hshort _ _ _ _)

/-- What the answers to bad frames leave of the transport. -/
def refused (n : ℕ) : RspTransport :=
  if t.noAckMode then t else { t with sent := t.sent ++ List.replicate n minus, takes := t.takes - n }

/-- The peer takes so many answers, or expects none. -/
def Takes (n : ℕ) : Prop := t.noAckMode = true ∨ n ≤ t.takes

lemma noAckMode_refused (n : ℕ) : (t.refused n).noAckMode = t.noAckMode := by
  rw [refused]
  split <;> rfl

lemma refused_zero : t.refused 0 = t := by
  rw [refused, List.replicate_zero, List.append_nil]
  split <;> rfl

lemma sendByte_one (byte : Byte) (h : 1 ≤ t.takes) :
    t.sendByte byte = (true, { t with sent := t.sent ++ [byte], takes := t.takes - 1 }) := by
  have htake : [byte].take t.takes = [byte] := List.take_of_length_le h
  rw [sendByte, sendAll, List.length_singleton, decide_eq_true h, htake]

lemma readLoop_bad (hbody : hash ∉ body) {hi lo : Byte} (hsum : decodeHexByte hi lo ≠ some (checksum body))
    (rest : List Byte) (htakes : t.Takes 1) :
    (t.withInput (dollar :: body ++ hash :: hi :: lo :: rest)).readLoop = ((t.refused 1).withInput rest).readLoop := by
  rw [readLoop_frame t hbody, if_pos hsum, refused]
  by_cases hmode : t.noAckMode = true
  · rw [if_pos hmode, if_pos hmode]
  · have hone : 1 ≤ (t.withInput rest).takes := htakes.resolve_left hmode
    rw [if_neg hmode, if_neg hmode, sendByte_one _ _ hone, if_pos rfl]
    rfl

lemma takes_refused {n m : ℕ} (h : t.Takes (n + m)) : (t.refused n).Takes m := by
  rw [Takes, noAckMode_refused]
  apply h.imp_right
  intro hle
  rw [refused]
  split
  · exact (Nat.le_add_left m n).trans hle
  · exact Nat.le_sub_of_add_le' hle

lemma not_takes_refused {n m : ℕ} (h : ¬ t.Takes (n + (m + 1))) : ¬ (t.refused n).Takes (m + 1) := by
  obtain ⟨hmode, hfew⟩ := not_or.1 h
  rw [Takes, noAckMode_refused, refused, if_neg hmode]
  rintro (hno | hle)
  · exact hmode hno
  · have hleft : m + 1 ≤ t.takes - n := hle
    exact hfew (by omega)

lemma refused_refused (n : ℕ) : (t.refused 1).refused n = t.refused (n + 1) := by
  cases hmode : t.noAckMode with
  | true => rw [refused, noAckMode_refused, if_pos hmode, refused, if_pos hmode, refused, if_pos hmode]
  | false =>
    have hoff : ¬ t.noAckMode = true := by
      rw [hmode]
      exact Bool.false_ne_true
    rw [refused, noAckMode_refused, if_neg hoff, refused, if_neg hoff, refused, if_neg hoff]
    simp only [List.append_assoc, List.replicate_succ, List.replicate_zero, List.cons_append, List.nil_append]
    rw [Nat.sub_sub, Nat.add_comm]

lemma readLoop_noise (ns : List Noise) (rest : List Byte) (htakes : t.Takes (ns.countP Noise.isFrame)) :
    (t.withInput (ns.flatMap Noise.bytes ++ rest)).readLoop =
      ((t.refused (ns.countP Noise.isFrame)).withInput rest).readLoop := by
  induction ns generalizing t with
  | nil => rw [List.countP_nil, refused_zero, List.flatMap_nil, List.nil_append]
  | cons n ns ih =>
    rw [List.flatMap_cons, List.append_assoc]
    cases n with
    | acknowledgement positive =>
      have hskip := ih t htakes
      cases positive with
      | true => exact (readLoop_skip t (by decide) (by decide) _).trans hskip
      | false => exact (readLoop_skip t (by decide) (by decide) _).trans hskip
    | junk b hb => exact (readLoop_skip t hb.1 hb.2 _).trans (ih t htakes)
    | badFrame body hi lo hbody hsum =>
      rw [List.countP_cons_of_pos rfl] at htakes ⊢
      rw [Nat.add_comm] at htakes
      have hone : t.Takes 1 := htakes.imp_right (Nat.le_add_right 1 _).trans
      rw [bytes_badFrame_append, readLoop_bad t hbody hsum _ hone, ih _ (takes_refused t htakes), refused_refused]

/-- What the answer to a good frame leaves of the transport. -/
def confirmed : RspTransport :=
  if t.noAckMode then t else { t with sent := t.sent ++ [plus], takes := t.takes - 1 }

lemma sendByte_none (byte : Byte) (h : ¬ 1 ≤ t.takes) : (t.sendByte byte).1 = false :=
  decide_eq_false h

lemma readLoop_good (hbody : hash ∉ body) {hi lo : Byte} (hsum : decodeHexByte hi lo = some (checksum body))
    (rest : List Byte) (htakes : t.Takes 1) :
    (t.withInput (dollar :: body ++ hash :: hi :: lo :: rest)).readLoop =
      (.packet body, t.confirmed.withInput rest) := by
  rw [readLoop_frame t hbody, if_neg (not_not_intro hsum), confirmed]
  by_cases hmode : t.noAckMode = true
  · rw [if_pos hmode, if_pos hmode]
  · have hone : 1 ≤ (t.withInput rest).takes := htakes.resolve_left hmode
    rw [if_neg hmode, if_neg hmode, sendByte_one _ _ hone, if_pos rfl]
    rfl

/-- A frame of either kind is answered, and without an answer the loop ends. -/
lemma readLoop_unanswered (hbody : hash ∉ body) (hi lo : Byte) (rest : List Byte) (htakes : ¬ t.Takes 1) :
    (t.withInput (dollar :: body ++ hash :: hi :: lo :: rest)).readLoop.1 = .failure := by
  obtain ⟨hmode, hnone⟩ := not_or.1 htakes
  have hsend (byte : Byte) : ((t.withInput rest).sendByte byte).1 = false := sendByte_none _ byte hnone
  rw [readLoop_frame t hbody, if_neg hmode, hsend, if_neg Bool.false_ne_true, if_neg hmode, hsend,
    if_neg Bool.false_ne_true]
  split <;> rfl

lemma readLoop_starved (ns : List Noise) (rest : List Byte) (htakes : ¬ t.Takes (ns.countP Noise.isFrame)) :
    (t.withInput (ns.flatMap Noise.bytes ++ rest)).readLoop.1 = .failure := by
  induction ns generalizing t with
  | nil => exact absurd (.inr (Nat.zero_le _)) htakes
  | cons n ns ih =>
    rw [List.flatMap_cons, List.append_assoc]
    cases n with
    | acknowledgement positive =>
      have hskip := ih t htakes
      cases positive with
      | true => exact (congrArg Prod.fst (readLoop_skip t (by decide) (by decide) _)).trans hskip
      | false => exact (congrArg Prod.fst (readLoop_skip t (by decide) (by decide) _)).trans hskip
    | junk b hb => exact (congrArg Prod.fst (readLoop_skip t hb.1 hb.2 _)).trans (ih t htakes)
    | badFrame body hi lo hbody hsum =>
      rw [List.countP_cons_of_pos rfl] at htakes
      rw [bytes_badFrame_append]
      by_cases hone : t.Takes 1
      · rw [readLoop_bad t hbody hsum _ hone]
        apply ih
        intro hleft
        apply htakes
        by_cases hmode : t.noAckMode = true
        · exact .inl hmode
        · rw [Takes, noAckMode_refused, refused, if_neg hmode] at hleft
          have hle : ns.countP Noise.isFrame ≤ t.takes - 1 := hleft.resolve_left hmode
          have hpos : 1 ≤ t.takes := hone.resolve_left hmode
          exact .inr (by omega)
      · exact readLoop_unanswered t hbody hi lo _ hone

lemma readLoop_closed (ns : List Noise) {torn : List Byte} (h : Torn torn) :
    (t.withInput (ns.flatMap Noise.bytes ++ torn)).readLoop.1 = .failure := by
  by_cases hnoise : t.Takes (ns.countP Noise.isFrame)
  · rw [readLoop_noise t ns _ hnoise, readLoop_torn _ h]
  · exact readLoop_starved t ns _ hnoise

end RspTransport

end Steps

/-- What the loop stops at. -/
inductive Stop : List Byte → Prop
  | torn {tail : List Byte} (h : Torn tail) : Stop tail
  | interrupt (rest : List Byte) : Stop (interruptByte :: rest)
  | frame {body : List Byte} {hi lo : Byte} (hbody : hash ∉ body) (hsum : decodeHexByte hi lo = some (checksum body))
      (rest : List Byte) : Stop (dollar :: body ++ hash :: hi :: lo :: rest)

/-- Each stream is noise up to the first place where the loop stops. -/
theorem exists_noise (input : List Byte) :
    ∃ (ns : List Noise) (tail : List Byte), input = ns.flatMap Noise.bytes ++ tail ∧ Stop tail := by
  induction hlength : input.length using Nat.strong_induction_on generalizing input with
  | _ n ih =>
    subst hlength
    cases input with
    | nil => exact ⟨[], [], rfl, .torn .nothing⟩
    | cons first rest =>
      by_cases hinterrupt : first = interruptByte
      · subst hinterrupt
        exact ⟨[], _, rfl, .interrupt rest⟩
      by_cases hdollar : first = dollar
      · subst hdollar
        by_cases hhash : hash ∈ rest
        · obtain ⟨body, digits, rfl, hbody⟩ := List.eq_append_cons_of_mem hhash
          match digits with
          | [] => exact ⟨[], _, rfl, .torn (.sum hbody (by decide))⟩
          | [digit] => exact ⟨[], _, rfl, .torn (.sum hbody Nat.one_lt_two)⟩
          | hi :: lo :: rest =>
            by_cases hsum : decodeHexByte hi lo = some (checksum body)
            · exact ⟨[], _, rfl, .frame hbody hsum rest⟩
            · have hshorter : rest.length < (dollar :: (body ++ hash :: hi :: lo :: rest)).length := by
                simp only [List.length_cons, List.length_append]
                omega
              obtain ⟨ns, tail, hrest, hstop⟩ := ih _ hshorter rest rfl
              apply Exists.intro (Noise.badFrame body hi lo hbody hsum :: ns)
              refine ⟨tail, ?_, hstop⟩
              rw [List.flatMap_cons, List.append_assoc, bytes_badFrame_append, hrest]
              rfl
        · exact ⟨[], _, rfl, .torn (.body hhash)⟩
      · obtain ⟨ns, tail, hrest, hstop⟩ := ih _ (Nat.lt_succ_self rest.length) rest rfl
        apply Exists.intro (Noise.junk first ⟨hdollar, hinterrupt⟩ :: ns)
        exact ⟨tail, congrArg (first :: ·) hrest, hstop⟩

namespace RspTransport

lemma decodeHexByte_hexDigit (sum : Byte) :
    decodeHexByte (hexDigit (sum >>> 4)) (hexDigit (sum &&& 0x0F)) = some sum := by
  revert sum
  decide +kernel

lemma framed_append (payload rest : List Byte) :
    framed payload ++ rest = dollar :: payload ++
      hash :: hexDigit (checksum payload >>> 4) :: hexDigit (checksum payload &&& 0x0F) :: rest := by
  rw [framed, List.append_assoc]
  rfl

lemma writePacket_connected {t : RspTransport} (hconnected : t.connected = true) {payload : List Byte}
    (htakes : payload.length + 4 ≤ t.takes) :
    t.writePacket payload =
      (true, { t with sent := t.sent ++ framed payload, takes := t.takes - (payload.length + 4) }) := by
  have hlength : (framed payload).length = payload.length + 4 := by
    simp only [framed, List.length_append, List.length_cons, List.length_nil]
  have htake : (framed payload).take t.takes = framed payload := List.take_of_length_le (hlength ▸ htakes)
  rw [writePacket, if_pos hconnected, sendAll, htake, hlength, decide_eq_true htakes]

/-- A written packet is read behind any noise, and answered once; so is each bad frame. -/
theorem readPacket_writePacket (t u : RspTransport) (ns : List Noise) (payload rest : List Byte)
    (ht : t.connected = true) (hu : u.connected = true) (hpayload : hash ∉ payload)
    (hwritten : payload.length + 4 ≤ u.takes) :
    let received := (t.withInput
      (ns.flatMap Noise.bytes ++ ((u.writePacket payload).2.sent.drop u.sent.length ++ rest))).readPacket
    let answers := ns.countP Noise.isFrame
    (u.writePacket payload).1 = true ∧
      (t.Takes (answers + 1) →
        received.1 = .packet payload ∧ received.2.input = rest ∧
          received.2.sent = t.sent ++ if t.noAckMode then [] else List.replicate answers minus ++ [plus]) ∧
      (¬ t.Takes (answers + 1) → received.1 = .failure) ∧
      ∀ {torn : List Byte}, Torn torn → (t.withInput (ns.flatMap Noise.bytes ++ torn)).readPacket.1 = .failure := by
  have hconnected (input : List Byte) : (t.withInput input).readPacket = (t.withInput input).readLoop := if_pos ht
  have hsum := decodeHexByte_hexDigit (checksum payload)
  intro received answers
  have hreceived : received = (t.withInput (ns.flatMap Noise.bytes ++ (framed payload ++ rest))).readLoop := by
    rw [← hconnected]
    change RspTransport.readPacket _ = _
    rw [writePacket_connected hu hwritten, List.drop_left]
  rw [hreceived, framed_append]
  refine ⟨?written, fun htakes => ?read, fun hfew => ?starved, fun {torn} htorn => ?closed⟩
  case written => rw [writePacket_connected hu hwritten]
  case read =>
    have hnoise : t.Takes answers := htakes.imp_right (Nat.le_of_succ_le)
    rw [readLoop_noise t ns _ hnoise, readLoop_good _ hpayload hsum rest (takes_refused t htakes)]
    refine ⟨rfl, rfl, ?_⟩
    change (t.refused answers).confirmed.sent = _
    rw [confirmed, noAckMode_refused, refused]
    split
    · exact (List.append_nil _).symm
    · exact List.append_assoc _ _ _
  case starved =>
    by_cases hnoise : t.Takes answers
    · rw [readLoop_noise t ns _ hnoise]
      exact readLoop_unanswered _ hpayload _ _ rest (not_takes_refused t hfew)
    · exact readLoop_starved t ns _ hnoise
  case closed =>
    rw [hconnected]
    exact readLoop_closed t ns htorn

def samplePeer : RspTransport := ⟨true, false, [], [], 6⟩

theorem readPacket_writePacket_sample :
    (samplePeer.withInput ([plus, dollar, 0x67, hash, 0x30, 0x30] ++
      ((samplePeer.writePacket [0x67, 0x30]).2.sent ++ [plus]))).readPacket.2.sent = [minus, plus] :=
  ((readPacket_writePacket samplePeer samplePeer
    [.acknowledgement true, .badFrame [0x67] 0x30 0x30 (by decide) (by decide)] [0x67, 0x30] [plus] rfl rfl (by decide)
    (by decide)).2.1 (.inr (by decide))).2.2

/-- A peer that closes before an interrupt or a whole frame of its sum ends the loop. -/
theorem readPacket_incomplete (t : RspTransport) {input : List Byte} (ht : t.connected = true)
    (hinterrupt : ∀ (ns : List Noise) (rest : List Byte), input ≠ ns.flatMap Noise.bytes ++ interruptByte :: rest)
    (hframe : ∀ (ns : List Noise) (body : List Byte) (hi lo : Byte) (rest : List Byte), hash ∉ body →
      decodeHexByte hi lo = some (checksum body) →
        input ≠ ns.flatMap Noise.bytes ++ (dollar :: body ++ hash :: hi :: lo :: rest)) :
    (t.withInput input).readPacket.1 = .failure := by
  have hconnected : (t.withInput input).readPacket = (t.withInput input).readLoop := if_pos ht
  obtain ⟨ns, tail, hinput, hstop⟩ := exists_noise input
  rw [hconnected]
  cases hstop with
  | torn htorn =>
    rw [hinput]
    exact readLoop_closed t ns htorn
  | interrupt rest => exact absurd hinput (hinterrupt ns rest)
  | @frame body hi lo hbody hsum rest => exact absurd hinput (hframe ns body hi lo rest hbody hsum)

end RspTransport

end Rsp

end Little64.Emulator
