import TokenMint.Proofs.Json.Record
import TokenMint.Wire

/-! # Values survive the wire

What is written of a value is read as that value, if only its integers have sixty-four bits; and
integers that have not are never read.  So a value that has been read, from whatever text, is read
again once it has been written. -/

namespace TokenMint

open Json (Reader Reads Gives Record)
open Text.Decimal (Range)

/-! ## Values that fit -/

namespace Json.Tree

mutual

/-- All integers of a value have sixty-four bits. -/
@[simp] def Fits : Tree → Prop
  | int n => n ∈ Range.signed64
  | bool _ => True
  | text _ => True
  | object ms => MembersFit ms

/-- All integers of some members have sixty-four bits. -/
@[simp] def MembersFit : List (String × Tree) → Prop
  | [] => True
  | (_, t) :: ms => t.Fits ∧ MembersFit ms

end

end Json.Tree

namespace Wire

variable {α : Type} [Wire α]

/-- The reader of a type takes what has been written of a value off the front of a text, and gives
nothing that would not fit. -/
structure Faithful (α : Type) [Wire α] : Prop where
  reads (a : α) (h : (tree a).Fits) : Reads reader (tree a) a
  gives : Gives reader fun a : α ↦ (tree a).Fits

/-- The values of a type survive the wire.  What has been written of a value is read as that value
exactly if the value fits; and once a value has been read, from whatever text, it is read again
from what is written of it. -/
structure Survives (α : Type) [Wire α] (fits : α → Prop) : Prop where
  read_write_iff (a : α) : read (write a) = .ok a ↔ fits a
  read_write_of_read (s : String) (a : α) (h : read s = .ok a) : read (write a) = .ok a

theorem Faithful.survives (h : Faithful α) {fits : α → Prop}
    (hfits : ∀ a, (tree a).Fits ↔ fits a) : Survives α fits where
  read_write_iff a := by
    rw [← hfits]
    exact ⟨fun hread ↦ h.gives.whole hread, fun ha ↦ (h.reads a ha).whole⟩
  read_write_of_read _ a hread := (h.reads a (h.gives.whole hread)).whole

section Fields

variable {σ β : Type} {fields : List (Json.Field σ)} {I : σ → Prop} {name : String}
  {known : σ → Bool} {r : Reader β} {put : β → σ → σ}

/-- A field keeps what its values keep. -/
theorem keeps_field {P : β → Prop} (hr : Gives r P) (hput : ∀ v, P v → ∀ s, I s → I (put v s))
    (h : Record.Keeps fields I) : Record.Keeps (field name known r put :: fields) I :=
  .cons (hr.map hput) h

/-- A field that has no part in what is kept. -/
theorem keeps_other (hput : ∀ v s, I s → I (put v s)) (h : Record.Keeps fields I) :
    Record.Keeps (field name known r put :: fields) I :=
  keeps_field (.trivial r) (fun v _ ↦ hput v) h

end Fields

end Wire

open Wire (keeps_field keeps_other)

/-! ## Token responses -/

namespace TokenResponse

/-- The integers that have been read have sixty-four bits. -/
def Known.Fits (s : Known) : Prop :=
  (∀ v ∈ s.id, v ∈ Range.signed64) ∧ ∀ v ∈ s.expiresIn, v ∈ Range.signed64

theorem fits_iff (r : TokenResponse) :
    (Wire.tree r).Fits ↔ r.id ∈ Range.signed64 ∧ r.expiresIn ∈ Range.signed64 := by
  simp [Wire.tree]

theorem known_keeps : Record.Keeps record.fields Known.Fits :=
  keeps_field (.int _) (fun _ hv _ hs ↦ ⟨by simpa using hv, hs.2⟩) <|
    keeps_other (fun _ _ hs ↦ hs) <|
    keeps_field (.int _) (fun _ hv _ hs ↦ ⟨hs.1, by simpa using hv⟩) <|
    keeps_other (fun _ _ hs ↦ hs) <| keeps_other (fun _ _ hs ↦ hs) <|
    keeps_other (fun _ _ hs ↦ hs) <| .nil _

theorem faithful : Wire.Faithful TokenResponse where
  reads r h := by
    obtain ⟨hid, hexpires⟩ := r.fits_iff.mp h
    exact .record (r := record)
      (.cons rfl rfl ((Reads.int hid hid).map _) <|
        .cons rfl rfl ((Reads.text _).map _) <|
        .cons rfl rfl ((Reads.int hexpires hexpires).map _) <|
        .cons rfl rfl ((Reads.text _).map _) <|
        .cons rfl rfl ((Reads.text _).map _) <|
        .cons rfl rfl ((Reads.text _).map _) <| .nil _) rfl
  gives := by
    refine Record.gives_read ⟨nofun, nofun⟩ known_keeps fun s r hs hr ↦ ?_
    simp only [record, Option.bind_eq_bind, Option.bind_eq_some_iff, Option.pure_def,
      Option.some_inj] at hr
    obtain ⟨id, hid, _, -, expiresIn, hexpires, _, -, _, -, _, -, rfl⟩ := hr
    exact (fits_iff _).mpr ⟨hs.1 id hid, hs.2 expiresIn hexpires⟩

end TokenResponse

/-! ## Failures -/

theorem ErrorBody.fits (b : ErrorBody) : (Wire.tree b).Fits := by simp [Wire.tree]

theorem ErrorBody.faithful : Wire.Faithful ErrorBody where
  reads _ _ := .record (r := record) (.cons rfl rfl ((Reads.text _).map _) <| .nil _) rfl
  gives _ b _ _ := b.fits

theorem Failure.Code.fits (c : Failure.Code) : (Wire.tree c).Fits := by simp [Wire.tree]

theorem Failure.Code.faithful : Wire.Faithful Failure.Code where
  reads c _ := .variant_plain (ofName?_name c)
  gives _ c _ _ := c.fits

/-! ## Scopes and owners -/

namespace Scope

theorem fits_iff (s : Scope) : (Wire.tree s).Fits ↔ s.id ∈ Range.signed64 := by simp [Wire.tree]

theorem known_keeps : Record.Keeps record.fields fun s ↦ ∀ v ∈ s.id, v ∈ Range.signed64 :=
  keeps_field (.int _) (fun _ hv _ _ ↦ by simpa using hv) <|
    keeps_other (fun _ _ hs ↦ hs) <| keeps_other (fun _ _ hs ↦ hs) <| .nil _

theorem faithful : Wire.Faithful Scope where
  reads s h := by
    have hid := s.fits_iff.mp h
    exact .record (r := record)
      (.cons rfl rfl ((Reads.int hid hid).map _) <|
        .cons rfl rfl ((Reads.text _).map _) <|
        .cons rfl rfl ((Reads.bool _).map _) <| .nil _) rfl
  gives := by
    refine Record.gives_read nofun known_keeps fun s a hs ha ↦ ?_
    simp only [record, Option.bind_eq_bind, Option.bind_eq_some_iff, Option.pure_def,
      Option.some_inj] at ha
    obtain ⟨id, hid, _, -, _, -, rfl⟩ := ha
    exact (fits_iff _).mpr (hs id hid)

end Scope

namespace Owner

/-- The number of an owner has sixty-four bits. -/
def Fits : Owner → Prop
  | client id | user id => id ∈ Range.signed64

theorem fits_iff (o : Owner) : (Wire.tree o).Fits ↔ o.Fits := by cases o <;> simp [Wire.tree, Fits]

theorem faithful : Wire.Faithful Owner where
  reads o h := by
    have hid := o.fits_iff.mp h
    cases o with
    | client id => exact .variant_content rfl rfl ((Reads.int hid hid).map _)
    | user id => exact .variant_content rfl rfl ((Reads.int hid hid).map _)
  gives := by
    refine .variant nofun fun kind r hr ↦ ?_
    unfold content? at hr
    split at hr
    · cases hr
      exact (Gives.int _).map fun id hid ↦ (fits_iff (.client id)).mpr hid
    · split at hr
      · cases hr
        exact (Gives.int _).map fun id hid ↦ (fits_iff (.user id)).mpr hid
      · cases hr

end Owner

/-! ## Configurations -/

theorem Environment.fits (e : Environment) : (Wire.tree e).Fits := by simp [Wire.tree]

theorem Environment.faithful : Wire.Faithful Environment where
  reads e _ := .variant_plain (ofName?_name e)
  gives _ e _ _ := e.fits

theorem Location.fits (l : Location) : (Wire.tree l).Fits := by cases l <;> simp [Wire.tree]

theorem Location.faithful : Wire.Faithful Location where
  reads
    | .file _, _ => .variant_content rfl rfl <|
      .record (r := record) (.cons rfl rfl ((Reads.text _).map _) <| .nil _) rfl
    | .memory, _ => .variant_plain rfl
  gives _ l _ _ := l.fits

namespace Lifetimes

theorem fits_iff (l : Lifetimes) :
    (Wire.tree l).Fits ↔ l.access ∈ Range.signed64 ∧ l.refresh ∈ Range.signed64 := by
  simp [Wire.tree]

theorem known_keeps : Record.Keeps record.fields fun s ↦
    (∀ v ∈ s.1, v ∈ Range.signed64) ∧ ∀ v ∈ s.2, v ∈ Range.signed64 :=
  keeps_field (.int _) (fun _ hv _ hs ↦ ⟨by simpa using hv, hs.2⟩) <|
    keeps_field (.int _) (fun _ hv _ hs ↦ ⟨hs.1, by simpa using hv⟩) <| .nil _

theorem faithful : Wire.Faithful Lifetimes where
  reads l h := by
    obtain ⟨haccess, hrefresh⟩ := l.fits_iff.mp h
    exact .record (r := record)
      (.cons rfl rfl ((Reads.int haccess haccess).map _) <|
        .cons rfl rfl ((Reads.int hrefresh hrefresh).map _) <| .nil _) rfl
  gives := by
    refine Record.gives_read ⟨nofun, nofun⟩ known_keeps fun s l hs hl ↦ ?_
    simp only [record, Option.bind_eq_bind, Option.bind_eq_some_iff, Option.pure_def,
      Option.some_inj] at hl
    obtain ⟨access, haccess, refresh, hrefresh, rfl⟩ := hl
    exact (fits_iff _).mpr ⟨hs.1 access haccess, hs.2 refresh hrefresh⟩

end Lifetimes

namespace Config

theorem port_mem (port : UInt16) : (port.toNat : Int) ∈ Range.word16 ∧
    (port.toNat : Int) ∈ Range.signed64 := by
  have := port.toNat_lt
  simp only [Range.mem_iff, Range.word16, Range.signed64]
  omega

theorem cost_mem (cost : UInt32) : (cost.toNat : Int) ∈ Range.word32 ∧
    (cost.toNat : Int) ∈ Range.signed64 := by
  have := cost.toNat_lt
  simp only [Range.mem_iff, Range.word32, Range.signed64]
  omega

/-- The port and the work factor always fit. -/
theorem fits_iff (c : Config) : (Wire.tree c).Fits ↔ (Wire.tree c.lifetimes).Fits := by
  have htree : Wire.tree c = .object [
    ("http_port", .int c.port.toNat), ("host", .text c.host),
    ("database_url", Wire.tree c.location), ("token_lifetimes", Wire.tree c.lifetimes),
    ("bcrypt_cost", .int c.cost.toNat), ("environment", Wire.tree c.environment)] := rfl
  simp [htree, c.location.fits, c.environment.fits, (port_mem c.port).2, (cost_mem c.cost).2]

theorem known_keeps : Record.Keeps record.fields fun s ↦
    ∀ l ∈ s.lifetimes, (Wire.tree l).Fits :=
  keeps_other (fun _ _ hs ↦ hs) <| keeps_other (fun _ _ hs ↦ hs) <|
    keeps_other (fun _ _ hs ↦ hs) <|
    keeps_field Lifetimes.faithful.gives (fun _ hv _ _ ↦ by simpa using hv) <|
    keeps_other (fun _ _ hs ↦ hs) <| keeps_other (fun _ _ hs ↦ hs) <| .nil _

theorem faithful : Wire.Faithful Config where
  reads c h := by
    have hlifetimes := c.fits_iff.mp h
    refine .record (r := record)
      (.cons rfl rfl ((Reads.int (port_mem c.port).2 (port_mem c.port).1).map _) <|
        .cons rfl rfl ((Reads.text _).map _) <|
        .cons rfl rfl ((Location.faithful.reads c.location c.location.fits).map _) <|
        .cons rfl rfl ((Lifetimes.faithful.reads c.lifetimes hlifetimes).map _) <|
        .cons rfl rfl ((Reads.int (cost_mem c.cost).2 (cost_mem c.cost).1).map _) <|
        .cons rfl rfl ((Environment.faithful.reads c.environment c.environment.fits).map _) <|
        .nil _) ?_
    have hport : UInt16.ofNat (c.port.toNat : Int).toNat = c.port := by simp
    have hcost : UInt32.ofNat (c.cost.toNat : Int).toNat = c.cost := by simp
    change some { c with port := .ofNat _, cost := .ofNat _ } = some c
    rw [hport, hcost]
  gives := by
    refine Record.gives_read nofun known_keeps fun s c hs hc ↦ ?_
    simp only [record, Option.bind_eq_bind, Option.bind_eq_some_iff, Option.pure_def,
      Option.some_inj] at hc
    obtain ⟨_, -, _, -, _, -, lifetimes, hlifetimes, _, -, _, -, rfl⟩ := hc
    exact (fits_iff _).mpr (hs lifetimes hlifetimes)

end Config

/-! ## All of them -/

/-- The values that cross the boundary of the server survive the wire, whatever their texts are.  A
value is read as it was written exactly if its integers have sixty-four bits; and one that has been
read, in whatever spelling, is read again from what is written of it. -/
theorem Wire.all_survive :
    Survives TokenResponse (fun r ↦ r.id ∈ Range.signed64 ∧ r.expiresIn ∈ Range.signed64) ∧
    Survives ErrorBody (fun _ ↦ True) ∧
    Survives Failure.Code (fun _ ↦ True) ∧
    Survives Scope (fun s ↦ s.id ∈ Range.signed64) ∧
    Survives Owner Owner.Fits ∧
    Survives Environment (fun _ ↦ True) ∧
    Survives Location (fun _ ↦ True) ∧
    Survives Lifetimes (fun l ↦ l.access ∈ Range.signed64 ∧ l.refresh ∈ Range.signed64) ∧
    Survives Config fun c ↦
      c.lifetimes.access ∈ Range.signed64 ∧ c.lifetimes.refresh ∈ Range.signed64 :=
  ⟨TokenResponse.faithful.survives TokenResponse.fits_iff,
    ErrorBody.faithful.survives fun b ↦ iff_of_true b.fits trivial,
    Failure.Code.faithful.survives fun c ↦ iff_of_true c.fits trivial,
    Scope.faithful.survives Scope.fits_iff,
    Owner.faithful.survives Owner.fits_iff,
    Environment.faithful.survives fun e ↦ iff_of_true e.fits trivial,
    Location.faithful.survives fun l ↦ iff_of_true l.fits trivial,
    Lifetimes.faithful.survives Lifetimes.fits_iff,
    Config.faithful.survives fun c ↦ c.fits_iff.trans c.lifetimes.fits_iff⟩

/-- A list with escapes, and an object with its members the other way round and one that nobody
asked for, are read as one response, which is written in another way and read again; and so is a
response with the least and the greatest integer. -/
theorem Wire.all_survive_spellings :
    let r : TokenResponse := ⟨-7, "a\"\\", 60, "Bearer", "😀", "\x00é"⟩
    let extreme : TokenResponse :=
      ⟨-9223372036854775808, "", 9223372036854775807, "", "", "\n"⟩
    Wire.read "[-7,\"a\\u0022\\\\\",60,\"Bearer\",\"\\ud83d\\uDE00\",\"\\u0000\\u00e9\"]" = .ok r ∧
    Wire.read " \x7b\"refresh_token\":\"\\u0000é\", \"jti\":[1e9,null], \"scope\":\"😀\",
      \"token_type\":\"Bearer\", \"expires_in\":60, \"access_token\":\"a\\\"\\\\\", \"id\":-7\x7d\t" =
        .ok r ∧
    Wire.read (Wire.write r) = .ok r ∧ Wire.read (Wire.write extreme) = .ok extreme := by
  intro r extreme
  have hlist : Wire.read
      "[-7,\"a\\u0022\\\\\",60,\"Bearer\",\"\\ud83d\\uDE00\",\"\\u0000\\u00e9\"]" = .ok r := by
    decide +kernel
  obtain ⟨hresponse, -⟩ := Wire.all_survive
  exact ⟨hlist, by decide +kernel, hresponse.read_write_of_read _ r hlist,
    (hresponse.read_write_iff extreme).mpr (by decide)⟩

end TokenMint
