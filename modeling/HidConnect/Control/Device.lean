import HidConnect.Control.Message

/-! The device's side of the control socket: the wire split back into messages, of which only
what concerns HID devices and touch pointers is kept. -/
namespace HidConnect
open Fallible

inductive DeviceEvent where
  | create (id : UInt16)
  | destroy (id : UInt16)
  | input (id : UInt16) (report : List UInt8)
  | touch (action : UInt8) (pointerId : UInt64)
  | other (tag : UInt8)
  deriving DecidableEq, Repr

def fieldAt (offset width : Nat) (bs : List UInt8) : Nat :=
  Bytes.ofBe ((bs.drop offset).take width)

def payloadLength (tag : UInt8) (bs : List UInt8) : Nat :=
  match tag.toNat with
  | 0 => 13
  | 1 => 4 + fieldAt 0 4 bs
  | 2 => 31
  | 3 => 20
  | 4 | 8 | 10 | 18 => 1
  | 9 => 13 + fieldAt 9 4 bs
  | 12 => 9 + fieldAt 6 1 bs + fieldAt (7 + fieldAt 6 1 bs) 2 bs
  | 13 => 4 + fieldAt 2 2 bs
  | 14 => 2
  | 16 => 1 + fieldAt 0 1 bs
  | 21 => 4
  | 22 => 5
  | 23 => 8
  | _ => 0

def eventOf (tag : UInt8) (payload : List UInt8) : DeviceEvent :=
  match tag.toNat with
  | 2 => .touch (fieldAt 0 1 payload).toUInt8 (fieldAt 1 8 payload).toUInt64
  | 12 => .create (fieldAt 0 2 payload).toUInt16
  | 13 => .input (fieldAt 0 2 payload).toUInt16 (payload.drop 4)
  | 14 => .destroy (fieldAt 0 2 payload).toUInt16
  | _ => .other tag

/-- Read whole messages; a message cut short at the end is not seen. -/
def readFuel : Nat → List UInt8 → List DeviceEvent
  | 0, _ => []
  | _, [] => []
  | fuel + 1, tag :: rest =>
    let n := payloadLength tag rest
    if n ≤ rest.length then eventOf tag (rest.take n) :: readFuel fuel (rest.drop n) else []

def readEvents (bs : List UInt8) : List DeviceEvent := readFuel bs.length bs

@[simp] theorem readEvents_nil : readEvents [] = [] := rfl

theorem readFuel_enough (fuel more : Nat) (bs : List UInt8) (enough : bs.length ≤ fuel) :
    readFuel (fuel + more) bs = readFuel fuel bs := by
  induction fuel generalizing bs with
  | zero =>
    have empty : bs = [] := List.length_eq_zero_iff.mp (by omega)
    subst empty
    cases more <;> rfl
  | succ fuel ih =>
    cases bs with
    | nil => rw [Nat.add_right_comm]; rfl
    | cons tag rest =>
      have shorter : (rest.drop (payloadLength tag rest)).length ≤ fuel := by
        simp only [List.length_drop, List.length_cons] at enough ⊢
        omega
      rw [Nat.add_right_comm]
      simp only [readFuel, ih _ shorter]

/-- A tag with the payload its length fields announce. -/
def IsFrame (tag : UInt8) (payload : List UInt8) : Prop :=
  ∀ rest, payloadLength tag (payload ++ rest) = payload.length

theorem readEvents_frame {tag : UInt8} {payload : List UInt8} (h : IsFrame tag payload)
    (rest : List UInt8) :
    readEvents (tag :: payload ++ rest) = eventOf tag payload :: readEvents rest := by
  have fuel : (tag :: payload ++ rest).length = rest.length + payload.length + 1 := by
    simp only [List.cons_append, List.length_cons, List.length_append]
    omega
  have whole : payload.length ≤ (payload ++ rest).length := by
    simp only [List.length_append]
    omega
  rw [readEvents, fuel, List.cons_append, readFuel]
  simp only [h rest, whole, if_true, List.take_left, List.drop_left]
  rw [readFuel_enough rest.length payload.length rest (Nat.le_refl _), readEvents]

/- A number written by a message is the number the device reads. -/

theorem fieldAt_here {w n : Nat} (h : n < 256 ^ w) (before after : List UInt8) :
    fieldAt before.length w (before ++ (Bytes.toBe w n ++ after)) = n := by
  rw [fieldAt, List.drop_left, Bytes.ofBe_take_toBe h]

theorem fieldAt_start {w n : Nat} (h : n < 256 ^ w) (after : List UInt8) :
    fieldAt 0 w (Bytes.toBe w n ++ after) = n := fieldAt_here h [] after

def eventOfMessage : ControlMessage → DeviceEvent
  | .uhidCreate c => .create c.id
  | .uhidDestroy d => .destroy d.id
  | .uhidInput i => .input i.id (i.data.toList.take i.size.toNat)
  | .injectTouchEvent t => .touch t.action t.pointerId
  | msg => .other msg.msgType.toU8

theorem truncated_string {s : String} {max : Nat} (small : max < 2 ^ 32) {before out : List UInt8}
    (h : ((Method.lift (truncateText s max) >>= fun bytes => writeString bytes) : Writer Unit).run
      before = (.ok (), out)) :
    ∃ kept, kept.length < 256 ^ 4 ∧ out = before ++ (Bytes.toBe 4 kept.length ++ kept) := by
  cases ht : truncateText s max with
  | ok kept =>
    have short : kept.length ≤ max := length_truncateText ht
    have same : kept.length % 4294967296 = kept.length := Nat.mod_eq_of_lt (by omega)
    refine ⟨kept, by omega, ?_⟩
    simpa [ht, writeString, writeU32Be, extendFromSlice, same] using h.symm
  | err e => simp [ht, Method.run_bind] at h
  | panic => simp [ht, Method.run_bind] at h

theorem frame_text {tag : UInt8} {before kept : List UInt8}
    (announced : ∀ bs, payloadLength tag bs = before.length + 4 + fieldAt before.length 4 bs)
    (short : kept.length < 256 ^ 4) :
    IsFrame tag (before ++ (Bytes.toBe 4 kept.length ++ kept)) := by
  intro rest
  rw [announced, List.append_assoc, List.append_assoc, fieldAt_here short]
  simp only [List.length_append, Bytes.length_toBe]
  omega

theorem tiny_string {s : String} {maxLen : Nat} (small : maxLen < 256) {before out : List UInt8}
    (h : (writeTinyString s maxLen).run before = (.ok (), out)) :
    ∃ kept, kept.length < 256 ^ 1 ∧ out = before ++ (Bytes.toBe 1 kept.length ++ kept) := by
  unfold writeTinyString at h
  dsimp only at h
  split at h
  · simp at h
  · rename_i fits
    refine ⟨asBytes s, by omega, ?_⟩
    have same : Bytes.toBe 1 (asBytes s).length = [(asBytes s).length.toUInt8] := by
      simp [Bytes.toBe, Bytes.toLe, ← UInt8.toNat_inj]
    simpa [pushByte, extendFromSlice, same] using h.symm

theorem u16_read (v : UInt16) (after : List UInt8) :
    (fieldAt 0 2 (Bytes.toBe 2 v.toNat ++ after)).toUInt16 = v := by
  rw [fieldAt_start v.toNat_lt]
  exact UInt16.ofNat_toNat

theorem frame_uhidCreate {c : UhidCreate} {payload : List UInt8}
    (h : (serializeUhidCreate c).run [] = (.ok (), payload)) :
    IsFrame 12 payload ∧ eventOf 12 payload = .create c.id := by
  have name : ∀ before out, (writeName c.name).run before = (.ok (), out) →
      ∃ kept, kept.length < 256 ^ 1 ∧ out = before ++ (Bytes.toBe 1 kept.length ++ kept) := by
    intro before out hn
    cases hc : c.name with
    | none =>
      rw [hc] at hn
      cases hn
      exact ⟨[], by decide, rfl⟩
    | some n =>
      rw [hc] at hn
      exact tiny_string (by decide) hn
  let before := Bytes.toBe 2 c.id.toNat ++ Bytes.toBe 2 c.vendorId.toNat ++
    Bytes.toBe 2 c.productId.toNat
  have split : (serializeUhidCreate c).run [] = (do
      writeName c.name
      if c.reportDesc.length > 65535 then
        .fail (.reportDescTooLong c.reportDesc.length)
      else do
        writeU16Be c.reportDesc.length.toUInt16
        extendFromSlice c.reportDesc : Writer Unit).run before := rfl
  rw [split, Method.run_bind] at h
  cases hn : (writeName c.name).run before with
  | mk r mid =>
  cases r with
  | err e => simp [hn] at h
  | panic => simp [hn] at h
  | ok a =>
    obtain ⟨kept, short, rfl⟩ := name _ _ hn
    simp only [hn] at h
    split at h
    · simp at h
    · rename_i fits
      have wrap : c.reportDesc.length % 65536 = c.reportDesc.length := Nat.mod_eq_of_lt (by omega)
      have out : payload = before ++ (Bytes.toBe 1 kept.length ++ (kept ++
          (Bytes.toBe 2 c.reportDesc.length ++ c.reportDesc))) := by
        simpa [writeU16Be, extendFromSlice, wrap] using h.symm
      subst out
      have six : before.length = 6 := rfl
      refine ⟨fun rest => ?_, ?_⟩
      · have nameRead (after : List UInt8) :
            fieldAt 6 1 (before ++ (Bytes.toBe 1 kept.length ++ after)) = kept.length :=
          fieldAt_here short before after
        have descRead : fieldAt (7 + kept.length) 2 (before ++ (Bytes.toBe 1 kept.length ++ (kept ++
            (Bytes.toBe 2 c.reportDesc.length ++ (c.reportDesc ++ rest))))) =
              c.reportDesc.length := by
          have at' := fieldAt_here (w := 2) (n := c.reportDesc.length) (by omega)
            (before ++ (Bytes.toBe 1 kept.length ++ kept)) (c.reportDesc ++ rest)
          have offset : (before ++ (Bytes.toBe 1 kept.length ++ kept)).length = 7 + kept.length := by
            simp only [List.length_append, Bytes.length_toBe, six]
            omega
          rw [offset] at at'
          simpa only [List.append_assoc] using at'
        change 9 + fieldAt 6 1 _ + fieldAt (7 + fieldAt 6 1 _) 2 _ = _
        simp only [List.append_assoc, nameRead, descRead, List.length_append, Bytes.length_toBe, six]
        omega
      · change DeviceEvent.create _ = _
        simp only [before, List.append_assoc, u16_read]

theorem frame_uhidInput {i : UhidInput} {payload : List UInt8}
    (h : (serializeUhidInput i).run [] = (.ok (), payload)) :
    IsFrame 13 payload ∧
      eventOf 13 payload = .input i.id (i.data.toList.take i.size.toNat) := by
  unfold serializeUhidInput at h
  by_cases fits : i.size.toNat > hidMaxSize
  · simp [fits, writeU16Be, extendFromSlice, Method.run_bind] at h
  · have out : payload = Bytes.toBe 2 i.id.toNat ++
        (Bytes.toBe 2 i.size.toNat ++ i.data.toList.take i.size.toNat) := by
      simpa [fits, writeU16Be, extendFromSlice, Method.run_bind] using h.symm
    have length : (i.data.toList.take i.size.toNat).length = i.size.toNat := by
      simp only [List.length_take, Vector.length_toList]
      omega
    subst out
    refine ⟨fun rest => ?_, ?_⟩
    · have read := fieldAt_here (w := 2) i.size.toNat_lt (Bytes.toBe 2 i.id.toNat)
        (i.data.toList.take i.size.toNat ++ rest)
      rw [Bytes.length_toBe] at read
      change 4 + fieldAt 2 2 _ = _
      simp only [List.append_assoc, read, List.length_append, Bytes.length_toBe, length]
      omega
    · change DeviceEvent.input _ _ = _
      rw [u16_read]
      rfl

theorem frame_touch (t : InjectTouchEvent) (payload : List UInt8)
    (h : (serializeInjectTouch t).run [] = (.ok (), payload)) :
    IsFrame 2 payload ∧ eventOf 2 payload = .touch t.action t.pointerId := by
  have fixed : IsFrame 2 payload := by
    cases h
    exact fun _ => rfl
  refine ⟨fixed, ?_⟩
  let pressure := (clamp t.pressure 0 1 * 65536).toUInt16
  let after := Bytes.toBe 4 t.x.toUInt32.toNat ++ (Bytes.toBe 4 t.y.toUInt32.toNat ++
    (Bytes.toBe 2 t.screenW.toNat ++ (Bytes.toBe 2 t.screenH.toNat ++
      (Bytes.toBe 2 pressure.toNat ++ (Bytes.toBe 4 t.actionButton.toNat ++
        Bytes.toBe 4 t.buttons.toNat)))))
  have out : payload = [t.action] ++ (Bytes.toBe 8 t.pointerId.toNat ++ after) := by
    have appended : (serializeInjectTouch t).run [] = (.ok (), [] ++ [t.action] ++
        Bytes.toBe 8 t.pointerId.toNat ++ Bytes.toBe 4 t.x.toUInt32.toNat ++
        Bytes.toBe 4 t.y.toUInt32.toNat ++ Bytes.toBe 2 t.screenW.toNat ++
        Bytes.toBe 2 t.screenH.toNat ++ Bytes.toBe 2 pressure.toNat ++
        Bytes.toBe 4 t.actionButton.toNat ++ Bytes.toBe 4 t.buttons.toNat) := rfl
    rw [appended] at h
    cases h
    simp only [List.append_assoc, List.nil_append, after]
  have pointer : fieldAt 1 8 payload = t.pointerId.toNat := by
    rw [out]
    exact fieldAt_here t.pointerId.toNat_lt [t.action] after
  have action : fieldAt 0 1 payload = t.action.toNat := by
    rw [out]
    exact Nat.add_zero _
  change DeviceEvent.touch (fieldAt 0 1 payload).toUInt8 (fieldAt 1 8 payload).toUInt64 = _
  rw [pointer, action]
  simp

/-- What a message appends after its tag is one frame, and the device reads the message's event
out of it. -/
theorem frame_of_payload (msg : ControlMessage) (payload : List UInt8)
    (h : (msg.serializePayload).run [] = (.ok (), payload)) :
    IsFrame msg.msgType.toU8 payload ∧ eventOf msg.msgType.toU8 payload = eventOfMessage msg := by
  cases msg with
  | uhidCreate c => exact frame_uhidCreate h
  | uhidInput i => exact frame_uhidInput h
  | uhidDestroy d =>
    cases h
    refine ⟨fun _ => rfl, ?_⟩
    change DeviceEvent.destroy (fieldAt 0 2 (Bytes.toBe 2 d.id.toNat ++ [])).toUInt16 = _
    rw [u16_read]
    rfl
  | injectText t =>
    obtain ⟨kept, short, rfl⟩ := truncated_string (by decide) h
    exact ⟨frame_text (fun _ => rfl) short, rfl⟩
  | injectTouchEvent t => exact frame_touch t payload h
  | setClipboard s =>
    have text : (Method.lift (truncateText s.text (controlMsgMaxSize - 14)) >>=
        fun bytes => writeString bytes : Writer Unit).run
          (Bytes.toBe 8 s.sequence.toNat ++ [s.paste.toUInt8]) = (.ok (), payload) := h
    obtain ⟨kept, short, rfl⟩ := truncated_string (by decide) text
    exact ⟨frame_text (fun _ => rfl) short, rfl⟩
  | startApp s =>
    obtain ⟨kept, short, rfl⟩ := tiny_string (by decide) h
    refine ⟨fun rest => ?_, rfl⟩
    change 1 + fieldAt 0 1 _ = _
    simp only [List.nil_append, List.append_assoc, fieldAt_start short, List.length_append,
      Bytes.length_toBe]
  | _ =>
    cases h
    exact ⟨fun _ => rfl, rfl⟩

theorem readEvents_message {msg : ControlMessage} (h : msg.Serializes) (rest : List UInt8) :
    readEvents (msg.bytes ++ rest) = eventOfMessage msg :: readEvents rest := by
  obtain ⟨payload, run, bytes⟩ := h.payload
  have frame := frame_of_payload msg payload run
  rw [bytes, readEvents_frame frame.1, frame.2]

def encodeAll (msgs : List ControlMessage) : List UInt8 := msgs.flatMap ControlMessage.bytes

@[simp] theorem encodeAll_nil : encodeAll [] = [] := rfl

@[simp] theorem encodeAll_append (xs ys : List ControlMessage) :
    encodeAll (xs ++ ys) = encodeAll xs ++ encodeAll ys := List.flatMap_append

@[simp] theorem encodeAll_singleton (msg : ControlMessage) : encodeAll [msg] = msg.bytes := by
  simp [encodeAll]

theorem readEvents_encodeAll {msgs : List ControlMessage} (h : ∀ msg ∈ msgs, msg.Serializes)
    (rest : List UInt8) :
    readEvents (encodeAll msgs ++ rest) = msgs.map eventOfMessage ++ readEvents rest := by
  induction msgs with
  | nil => rfl
  | cons msg msgs ih =>
    have tail := ih fun m hm => h m (List.mem_cons_of_mem _ hm)
    simp only [encodeAll, List.flatMap_cons, List.append_assoc] at tail ⊢
    rw [readEvents_message (h msg (List.mem_cons_self ..)), tail, List.map_cons, List.cons_append]

end HidConnect
