import HidConnect.Library.Bytes
import HidConnect.Types

/-! Control messages and their serialization to the control-socket format. -/
namespace HidConnect
open Fallible

def controlMsgMaxSize : Nat := 2 ^ 18
def injectTextMaxLength : Nat := 300

inductive ControlMsgType where
  | injectKeycode | injectText | injectTouchEvent | injectScrollEvent | backOrScreenOn
  | expandNotification | expandSettings | collapsePanels | getClipboard | setClipboard
  | setDisplayPower | rotateDevice | uhidCreate | uhidInput | uhidDestroy | openHardKbSettings
  | startApp | resetVideo | cameraSetTorch | cameraZoomIn | cameraZoomOut | resizeDisplay
  | aiConfig | aiQuery | aiPause

def ControlMsgType.toU8 : ControlMsgType → UInt8
  | injectKeycode => 0
  | injectText => 1
  | injectTouchEvent => 2
  | injectScrollEvent => 3
  | backOrScreenOn => 4
  | expandNotification => 5
  | expandSettings => 6
  | collapsePanels => 7
  | getClipboard => 8
  | setClipboard => 9
  | setDisplayPower => 10
  | rotateDevice => 11
  | uhidCreate => 12
  | uhidInput => 13
  | uhidDestroy => 14
  | openHardKbSettings => 15
  | startApp => 16
  | resetVideo => 17
  | cameraSetTorch => 18
  | cameraZoomIn => 19
  | cameraZoomOut => 20
  | resizeDisplay => 21
  | aiConfig => 22
  | aiQuery => 23
  | aiPause => 24

structure AiConfig where
  flags : UInt8
  sampleIntervalMs : UInt16
  featureDim : UInt16

structure AiQuery where
  sinceTimestampMs : UInt64

structure UhidCreate where
  id : UInt16
  vendorId : UInt16
  productId : UInt16
  name : Option String
  reportDesc : List UInt8

structure UhidInput where
  id : UInt16
  size : UInt16
  data : Vector UInt8 hidMaxSize

structure UhidDestroy where
  id : UInt16

structure InjectKeycode where
  action : UInt8
  keycode : UInt32
  repeats : UInt32
  metastate : UInt32

structure InjectText where
  text : String

structure InjectTouchEvent where
  action : UInt8
  pointerId : UInt64
  x : Int32
  y : Int32
  screenW : UInt16
  screenH : UInt16
  pressure : Float32
  actionButton : UInt32
  buttons : UInt32

structure InjectScrollEvent where
  x : Int32
  y : Int32
  screenW : UInt16
  screenH : UInt16
  hscroll : Float32
  vscroll : Float32
  buttons : UInt32

structure BackOrScreenOn where
  action : UInt8

structure GetClipboard where
  copyKey : UInt8

structure SetClipboard where
  sequence : UInt64
  paste : Bool
  text : String

structure SetDisplayPower where
  on : Bool

structure StartApp where
  name : String

structure CameraSetTorch where
  on : Bool

structure ResizeDisplay where
  width : UInt16
  height : UInt16

inductive ControlMessage where
  | uhidCreate (c : UhidCreate)
  | uhidInput (i : UhidInput)
  | uhidDestroy (d : UhidDestroy)
  | injectKeycode (k : InjectKeycode)
  | injectText (t : InjectText)
  | injectTouchEvent (t : InjectTouchEvent)
  | injectScrollEvent (s : InjectScrollEvent)
  | backOrScreenOn (b : BackOrScreenOn)
  | getClipboard (g : GetClipboard)
  | setClipboard (s : SetClipboard)
  | setDisplayPower (s : SetDisplayPower)
  | startApp (s : StartApp)
  | cameraSetTorch (t : CameraSetTorch)
  | resizeDisplay (r : ResizeDisplay)
  | expandNotificationPanel
  | expandSettingsPanel
  | collapsePanels
  | rotateDevice
  | openHardKeyboardSettings
  | resetVideo
  | cameraZoomIn
  | cameraZoomOut
  | aiConfig (c : AiConfig)
  | aiQuery (q : AiQuery)
  | aiPause

/- Appending to a caller's buffer. -/

abbrev Writer := Method Error (List UInt8)

def extendFromSlice (bs : List UInt8) : Writer Unit := .update (· ++ bs)
def pushByte (b : UInt8) : Writer Unit := extendFromSlice [b]
def writeU16Be (v : UInt16) : Writer Unit := extendFromSlice (Bytes.toBe 2 v.toNat)
def writeU32Be (v : UInt32) : Writer Unit := extendFromSlice (Bytes.toBe 4 v.toNat)
def writeU64Be (v : UInt64) : Writer Unit := extendFromSlice (Bytes.toBe 8 v.toNat)

def asBytes (s : String) : List UInt8 := s.toUTF8.data.toList

/-- `&s[..n]`: a cut inside a character panics. -/
def sliceTo (s : String) (n : Nat) : Result (List UInt8) :=
  let bytes := asBytes s
  match bytes[n]? with
  | some b => if b &&& 0xC0 = 0x80 then .panic else .ok (bytes.take n)
  | none => if bytes.length = n then .ok bytes else .panic

def writeTinyString (s : String) (maxLen : Nat) : Writer Unit :=
  let bytes := asBytes s
  if bytes.length > maxLen then .fail (.nameTooLong bytes.length)
  else do
    pushByte bytes.length.toUInt8
    extendFromSlice bytes

def writeString (bytes : List UInt8) : Writer Unit := do
  writeU32Be bytes.length.toUInt32
  extendFromSlice bytes

def writePosition (x y : Int32) (w h : UInt16) : Writer Unit := do
  writeU32Be x.toUInt32
  writeU32Be y.toUInt32
  writeU16Be w
  writeU16Be h

/-- `f32::clamp`: a NaN passes through. -/
def clamp (x lo hi : Float32) : Float32 :=
  let raised := if x < lo then lo else x
  if hi < raised then hi else raised

def writeName : Option String → Writer Unit
  | some n => writeTinyString n 127
  | none => pushByte 0

def serializeUhidCreate (c : UhidCreate) : Writer Unit := do
  writeU16Be c.id
  writeU16Be c.vendorId
  writeU16Be c.productId
  writeName c.name
  if c.reportDesc.length > 65535 then
    .fail (.reportDescTooLong c.reportDesc.length)
  else do
    writeU16Be c.reportDesc.length.toUInt16
    extendFromSlice c.reportDesc

def hidMsgBudget : Nat := 5 + hidMaxSize

def serializeUhidInput (i : UhidInput) : Writer Unit := do
  writeU16Be i.id
  if i.size.toNat > hidMaxSize then
    .fail (.controlMessageTooLarge (i.size.toNat + 5) hidMsgBudget)
  else do
    writeU16Be i.size
    extendFromSlice (i.data.toList.take i.size.toNat)

def serializeUhidDestroy (d : UhidDestroy) : Writer Unit := writeU16Be d.id

def serializeInjectKeycode (k : InjectKeycode) : Writer Unit := do
  pushByte k.action
  writeU32Be k.keycode
  writeU32Be k.repeats
  writeU32Be k.metastate

def truncateText (s : String) (max : Nat) : Result (List UInt8) :=
  if (asBytes s).length > max then sliceTo s max else .ok (asBytes s)

def serializeInjectText (t : InjectText) : Writer Unit := do
  let truncated ← .lift (truncateText t.text injectTextMaxLength)
  writeString truncated

def serializeInjectTouch (t : InjectTouchEvent) : Writer Unit := do
  pushByte t.action
  writeU64Be t.pointerId
  writePosition t.x t.y t.screenW t.screenH
  writeU16Be (clamp t.pressure 0 1 * 65536).toUInt16
  writeU32Be t.actionButton
  writeU32Be t.buttons

def serializeInjectScroll (s : InjectScrollEvent) : Writer Unit := do
  writePosition s.x s.y s.screenW s.screenH
  writeU16Be (clamp (s.hscroll / 16) (-1) 1 * 32768).toInt16.toUInt16
  writeU16Be (clamp (s.vscroll / 16) (-1) 1 * 32768).toInt16.toUInt16
  writeU32Be s.buttons

def serializeSetClipboard (s : SetClipboard) : Writer Unit := do
  writeU64Be s.sequence
  pushByte s.paste.toUInt8
  let truncated ← .lift (truncateText s.text (controlMsgMaxSize - 14))
  writeString truncated

def serializeStartApp (s : StartApp) : Writer Unit := writeTinyString s.name 255

namespace ControlMessage

def msgType : ControlMessage → ControlMsgType
  | injectKeycode _ => .injectKeycode
  | injectText _ => .injectText
  | injectTouchEvent _ => .injectTouchEvent
  | injectScrollEvent _ => .injectScrollEvent
  | backOrScreenOn _ => .backOrScreenOn
  | expandNotificationPanel => .expandNotification
  | expandSettingsPanel => .expandSettings
  | collapsePanels => .collapsePanels
  | getClipboard _ => .getClipboard
  | setClipboard _ => .setClipboard
  | setDisplayPower _ => .setDisplayPower
  | rotateDevice => .rotateDevice
  | uhidCreate _ => .uhidCreate
  | uhidInput _ => .uhidInput
  | uhidDestroy _ => .uhidDestroy
  | openHardKeyboardSettings => .openHardKbSettings
  | startApp _ => .startApp
  | resetVideo => .resetVideo
  | cameraSetTorch _ => .cameraSetTorch
  | cameraZoomIn => .cameraZoomIn
  | cameraZoomOut => .cameraZoomOut
  | resizeDisplay _ => .resizeDisplay
  | aiConfig _ => .aiConfig
  | aiQuery _ => .aiQuery
  | aiPause => .aiPause

/-- The two messages that may never be dropped. -/
def isCritical : ControlMessage → Bool
  | uhidCreate _ | uhidDestroy _ => true
  | _ => false

def serializePayload : ControlMessage → Writer Unit
  | uhidCreate c => serializeUhidCreate c
  | uhidInput i => serializeUhidInput i
  | uhidDestroy d => serializeUhidDestroy d
  | injectKeycode k => serializeInjectKeycode k
  | injectText t => serializeInjectText t
  | injectTouchEvent t => serializeInjectTouch t
  | injectScrollEvent s => serializeInjectScroll s
  | backOrScreenOn b => pushByte b.action
  | getClipboard g => pushByte g.copyKey
  | setClipboard s => serializeSetClipboard s
  | setDisplayPower s => pushByte s.on.toUInt8
  | startApp s => serializeStartApp s
  | cameraSetTorch t => pushByte t.on.toUInt8
  | resizeDisplay r => do
    writeU16Be r.width
    writeU16Be r.height
  | aiConfig c => do
    pushByte c.flags
    writeU16Be c.sampleIntervalMs
    writeU16Be c.featureDim
  | aiQuery q => writeU64Be q.sinceTimestampMs
  | aiPause | expandNotificationPanel | expandSettingsPanel | collapsePanels | rotateDevice
  | openHardKeyboardSettings | resetVideo | cameraZoomIn | cameraZoomOut => pure ()

def serializeTagged (msg : ControlMessage) : Writer Unit := do
  pushByte msg.msgType.toU8
  serializePayload msg

/-- Serialize into a caller's buffer and return the number of bytes written. An error leaves
the buffer as it was. -/
def serializeInto (msg : ControlMessage) : Writer Nat := do
  let start := (← Method.read).length
  Method.rollback (serializeTagged msg) (.update fun buf => buf.take start)
  let written := (← Method.read).length - start
  if written > controlMsgMaxSize then do
    Method.update fun buf => buf.take start
    .fail (.controlMessageTooLarge written controlMsgMaxSize)
  else pure written

def serialize (msg : ControlMessage) : Result (List UInt8) :=
  match (serializeInto msg).run [] with
  | (.ok _, buf) => .ok buf
  | (.err e, _) => .err e
  | (.panic, _) => .panic

end ControlMessage

theorem length_sliceTo {s : String} {n : Nat} {bs : List UInt8} (h : sliceTo s n = .ok bs) :
    bs.length ≤ n := by
  unfold sliceTo at h
  dsimp only at h
  split at h
  · split at h
    · contradiction
    · cases h
      exact List.length_take_le n _
  · split at h
    · rename_i whole
      cases h
      exact Nat.le_of_eq whole
    · contradiction

theorem length_truncateText {s : String} {max : Nat} {bs : List UInt8}
    (h : truncateText s max = .ok bs) : bs.length ≤ max := by
  unfold truncateText at h
  split at h
  · exact length_sliceTo h
  · cases h
    omega

/- Every writer only appends, and what it appends does not depend on the buffer. -/

def Appends {α : Type} (m : Writer α) (r : Result α) (bs : List UInt8) : Prop :=
  ∀ buf, m.run buf = (r, buf ++ bs)

theorem appends_extend (bs : List UInt8) : Appends (extendFromSlice bs) (.ok ()) bs :=
  fun _ => rfl

theorem appends_pure {α : Type} (a : α) : Appends (pure a) (.ok a) [] := by
  intro buf
  simp

theorem appends_fail {α : Type} (e : Error) : Appends (.fail e : Writer α) (.err e) [] := by
  intro buf
  simp

theorem appends_lift {α : Type} (r : Result α) : Appends (.lift r) r [] := by
  intro buf
  simp

theorem Appends.bind {α β : Type} {m : Writer α} {f : α → Writer β} {a : α} {r : Result β}
    {bs cs : List UInt8} (hm : Appends m (.ok a) bs) (hf : Appends (f a) r cs) :
    Appends (m >>= f) r (bs ++ cs) := by
  intro buf
  rw [Method.run_bind_ok (hm buf), hf, List.append_assoc]

/-- A writer whose bytes and answer are fixed. -/
def Oblivious {α : Type} (m : Writer α) : Prop := ∃ r bs, Appends m r bs

theorem Oblivious.bind {α β : Type} {m : Writer α} {f : α → Writer β} (hm : Oblivious m)
    (hf : ∀ a, Oblivious (f a)) : Oblivious (m >>= f) := by
  obtain ⟨r, bs, h⟩ := hm
  cases r with
  | ok a =>
    obtain ⟨s, cs, ha⟩ := hf a
    exact ⟨s, bs ++ cs, h.bind ha⟩
  | err e => exact ⟨.err e, bs, fun buf => Method.run_bind_err (h buf)⟩
  | panic => exact ⟨.panic, bs, fun buf => Method.run_bind_panic (h buf)⟩

theorem oblivious_extend (bs : List UInt8) : Oblivious (extendFromSlice bs) :=
  ⟨_, _, appends_extend bs⟩

theorem oblivious_fail {α : Type} (e : Error) : Oblivious (.fail e : Writer α) :=
  ⟨_, _, appends_fail e⟩

theorem oblivious_lift {α : Type} (r : Result α) : Oblivious (.lift r) := ⟨_, _, appends_lift r⟩

theorem oblivious_tinyString (s : String) (maxLen : Nat) : Oblivious (writeTinyString s maxLen) := by
  unfold writeTinyString
  dsimp only
  split
  · exact oblivious_fail _
  · exact (oblivious_extend _).bind fun _ => oblivious_extend _

theorem oblivious_string (bytes : List UInt8) : Oblivious (writeString bytes) :=
  (oblivious_extend _).bind fun _ => oblivious_extend _

theorem oblivious_position (x y : Int32) (w h : UInt16) : Oblivious (writePosition x y w h) :=
  (oblivious_extend _).bind fun _ => (oblivious_extend _).bind fun _ =>
    (oblivious_extend _).bind fun _ => oblivious_extend _

theorem oblivious_uhidCreate (c : UhidCreate) : Oblivious (serializeUhidCreate c) := by
  refine (oblivious_extend _).bind fun _ => (oblivious_extend _).bind fun _ =>
    (oblivious_extend _).bind fun _ => Oblivious.bind ?_ fun _ => ?_
  · cases c.name with
    | none => exact oblivious_extend _
    | some n => exact oblivious_tinyString n 127
  · split
    · exact oblivious_fail _
    · exact (oblivious_extend _).bind fun _ => oblivious_extend _

theorem oblivious_uhidInput (i : UhidInput) : Oblivious (serializeUhidInput i) := by
  refine (oblivious_extend _).bind fun _ => ?_
  split
  · exact oblivious_fail _
  · exact (oblivious_extend _).bind fun _ => oblivious_extend _

theorem oblivious_payload (msg : ControlMessage) : Oblivious msg.serializePayload := by
  have byte (b : UInt8) : Oblivious (pushByte b) := oblivious_extend _
  have u16 (v : UInt16) : Oblivious (writeU16Be v) := oblivious_extend _
  have u32 (v : UInt32) : Oblivious (writeU32Be v) := oblivious_extend _
  have u64 (v : UInt64) : Oblivious (writeU64Be v) := oblivious_extend _
  have text (s : String) (n : Nat) :
      Oblivious (Method.lift (truncateText s n) >>= fun bytes => writeString bytes) :=
    (oblivious_lift _).bind oblivious_string
  cases msg with
  | uhidCreate c => exact oblivious_uhidCreate c
  | uhidInput i => exact oblivious_uhidInput i
  | uhidDestroy d => exact u16 _
  | injectKeycode k =>
    exact (byte _).bind fun _ => (u32 _).bind fun _ => (u32 _).bind fun _ => u32 _
  | injectText t => exact text _ _
  | injectTouchEvent t =>
    exact (byte _).bind fun _ => (u64 _).bind fun _ => (oblivious_position _ _ _ _).bind
      fun _ => (u16 _).bind fun _ => (u32 _).bind fun _ => u32 _
  | injectScrollEvent s =>
    exact (oblivious_position _ _ _ _).bind fun _ => (u16 _).bind fun _ => (u16 _).bind
      fun _ => u32 _
  | backOrScreenOn b => exact byte _
  | getClipboard g => exact byte _
  | setClipboard s => exact (u64 _).bind fun _ => (byte _).bind fun _ => text _ _
  | setDisplayPower s => exact byte _
  | startApp s => exact oblivious_tinyString _ _
  | cameraSetTorch t => exact byte _
  | resizeDisplay r => exact (u16 _).bind fun _ => u16 _
  | aiConfig c => exact (byte _).bind fun _ => (u16 _).bind fun _ => u16 _
  | aiQuery q => exact u64 _
  | _ => exact ⟨_, _, appends_pure ()⟩

namespace ControlMessage

theorem serializeInto_run (msg : ControlMessage) (buf : List UInt8) :
    (msg.serializeInto).run buf =
      match msg.serialize with
      | .ok bs => (.ok bs.length, buf ++ bs)
      | .err e => (.err e, buf)
      | .panic => (.panic, ((msg.serializeInto).run buf).2) := by
  obtain ⟨r, bs, h⟩ := (oblivious_extend [msg.msgType.toU8]).bind fun _ => oblivious_payload msg
  have body (b : List UInt8) : (serializeTagged msg).run b = (r, b ++ bs) := h b
  cases r with
  | ok a =>
    by_cases long : bs.length > controlMsgMaxSize
    · simp [serialize, serializeInto, Method.run_bind, Method.rollback, body, long]
    · simp [serialize, serializeInto, Method.run_bind, Method.rollback, body, long]
  | err e => simp [serialize, serializeInto, Method.run_bind, Method.rollback, body]
  | panic => simp [serialize, serializeInto, Method.run_bind, Method.rollback, body]

theorem serializeInto_ok {msg : ControlMessage} {bs : List UInt8} (h : msg.serialize = .ok bs)
    (buf : List UInt8) : (msg.serializeInto).run buf = (.ok bs.length, buf ++ bs) := by
  rw [serializeInto_run, h]

theorem serializeInto_panic {msg : ControlMessage} (h : msg.serialize = .panic)
    (buf : List UInt8) : ((msg.serializeInto).run buf).1 = .panic := by
  rw [serializeInto_run, h]

/-- The bytes of a message that serializes, and nothing for one that does not. -/
def bytes (msg : ControlMessage) : List UInt8 :=
  match msg.serialize with
  | .ok bs => bs
  | _ => []

def Serializes (msg : ControlMessage) : Prop := msg.serialize.isOk = true

theorem Serializes.eq {msg : ControlMessage} (h : msg.Serializes) :
    msg.serialize = .ok msg.bytes := by
  obtain ⟨bs, hb⟩ := Outcome.isOk_iff.mp h
  rw [hb, bytes, hb]

theorem serialize_payload {msg : ControlMessage} {payload : List UInt8}
    (h : (msg.serializePayload).run [] = (.ok (), payload))
    (short : payload.length < controlMsgMaxSize) :
    msg.serialize = .ok (msg.msgType.toU8 :: payload) := by
  obtain ⟨r, bs, appends⟩ := oblivious_payload msg
  have same : (r, bs) = (.ok (), payload) := by rw [← h, appends, List.nil_append]
  cases same
  have fits : ¬controlMsgMaxSize < payload.length + 1 := by omega
  have body : (serializeTagged msg).run [] = (.ok (), msg.msgType.toU8 :: payload) :=
    appends [msg.msgType.toU8]
  simp [serialize, serializeInto, Method.run_bind, Method.rollback, body, fits]

theorem Serializes.payload {msg : ControlMessage} (h : msg.Serializes) :
    ∃ payload, (msg.serializePayload).run [] = (.ok (), payload) ∧
      msg.bytes = msg.msgType.toU8 :: payload := by
  obtain ⟨r, bs, appends⟩ := oblivious_payload msg
  have body : (serializeTagged msg).run [] = (r, msg.msgType.toU8 :: bs) :=
    appends [msg.msgType.toU8]
  cases r with
  | ok a =>
    refine ⟨bs, appends [], ?_⟩
    by_cases fits : bs.length < controlMsgMaxSize
    · simp only [bytes, serialize_payload (appends []) fits, List.nil_append]
    · have long : controlMsgMaxSize < bs.length + 1 := by omega
      simp [Serializes, serialize, serializeInto, Method.run_bind, Method.rollback, body, long] at h
  | err e =>
    simp [Serializes, serialize, serializeInto, Method.run_bind, Method.rollback, body] at h
  | panic =>
    simp [Serializes, serialize, serializeInto, Method.run_bind, Method.rollback, body] at h

end ControlMessage

end HidConnect
