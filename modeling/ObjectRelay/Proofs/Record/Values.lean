import ObjectRelay.Proofs.Json.Place
import ObjectRelay.Proofs.Record.Lines
/-!
# Values one after another

A value that the end of an object would complete is completed by a line end too, so objects of JSON values can be put
one behind the other (`Decoding.decode_joined`).  A value is expanded as a whole: if it is not of the expected shape,
then the records in front of it are all there is, however much of it is as it should be.
-/
namespace ObjectRelay

open Json (Reader Fault IsOneValue)

namespace Json

namespace Reader

variable {top : Shape} {r : Reader}

/-- **A line end completes what the end of the text would complete.** -/
theorem step_lineEnd {v? : Option Json} (h : r.finish top = .ok v?) : r.step top lineEnd = (v?, .ok {}) := by
  cases v? with
  | none =>
    obtain rfl := eq_of_finish_none h
    rfl
  | some v =>
    rcases finish_eq_some h with hending | ⟨n, rfl, hcomplete, hvalue⟩
    · rw [step, hending]
      rfl
    · have hended : n.step lineEnd = .ended := step_delimiter hcomplete rfl
      have hexpected : (⟨.number n, []⟩ : Reader).expected top = top := rfl
      simp only [step, hended, hexpected, hvalue]
      rfl

/-- A number of the wrong shape is refused at its end. -/
theorem step_lineEnd_mismatched (h : r.finish top = .error .mismatched) :
    r.step top lineEnd = (none, .error .mismatched) := by
  obtain ⟨mode, stack⟩ := r
  cases mode with
  | number n =>
    simp only [finish] at h
    split at h
    · rename_i hcomplete
      split at h
      · rename_i hvalue
        have hended : n.step lineEnd = .ended := step_delimiter hcomplete rfl
        simp only [step, hended, hvalue]
        cases h
        rfl
      · split at h <;> cases h
    · split at h <;> cases h
  | value =>
    simp only [finish] at h
    split at h <;> cases h
  | _ => cases h

end Reader
end Json

namespace RecordDecoder

variable {top : Json.Shape} {expand : Json → List Record}

/-- A byte that is a fault may still complete a value, which is given out. -/
theorem step_ofJson_error {r : Reader} {b : UInt8} {v? : Option Json} {e : Fault} (h : r.step top b = (v?, .error e)) :
    (ofJson top expand).step r b = (v?.toList.flatMap expand, .error (.json e)) := by
  cases v? with
  | none =>
    simp only [ofJson, h]
    rfl
  | some v =>
    simp only [ofJson, h, Option.toList_some, List.flatMap_singleton]
    rfl

/-- **A fault ends the records**, whatever follows. -/
theorem runFrom_play_error (ending : Ending) : ∀ {bytes : List UInt8} {r : Reader} {values : List Json} {e : Fault},
    Reader.play top r bytes = (values, .error e) → ∀ rest : List UInt8,
    (ofJson top expand).runFrom ending r (bytes ++ rest) =
      { records := values.flatMap expand, error := some (.json e) }
  | [], r, values, e, h, rest => by cases h
  | b :: bytes, r, values, e, h, rest => by
    rw [Reader.play] at h
    rcases hstep : r.step top b with ⟨v?, e' | next⟩
    · rw [hstep] at h
      cases h
      exact runFrom_cons_error (step_ofJson_error hstep) ending (bytes ++ rest)
    · rw [hstep] at h
      rcases hplay : Reader.play top next bytes with ⟨more, final⟩
      simp only [hplay] at h
      cases h
      have hfirst : (ofJson top expand).step r b = _ := step_ofJson hstep
      rw [List.cons_append, runFrom_cons hfirst, runFrom_play_error ending hplay rest, List.flatMap_append]
      rfl

/-- What the bytes of a whole object decode to. -/
theorem runFrom_complete {bytes : List UInt8} {r next : Reader} {values : List Json}
    (h : Reader.play top r bytes = (values, .ok next)) :
    (ofJson top expand).runFrom .complete r bytes =
      prepend (values.flatMap expand) ((ofJson top expand).finish next) := by
  rw [← List.append_nil bytes, runFrom_play .complete h]
  rfl

/-- What the bytes of an object with a fault decode to. -/
theorem runFrom_complete_error {bytes : List UInt8} {r : Reader} {values : List Json} {e : Fault}
    (h : Reader.play top r bytes = (values, .error e)) :
    (ofJson top expand).runFrom .complete r bytes = { records := values.flatMap expand, error := some (.json e) } := by
  rw [← List.append_nil bytes, runFrom_play_error .complete h]

variable {a v : List UInt8}

/-- **Values behind a line end come after those in front of it**, and nothing is read across it. -/
theorem runFrom_joined (ha : ((ofJson top expand).runFrom .complete {} a).error = none) (rest : List UInt8) :
    (ofJson top expand).runFrom .complete {} (a ++ lineEnd :: rest) =
      prepend ((ofJson top expand).runFrom .complete {} a).records ((ofJson top expand).runFrom .complete {} rest) := by
  rcases hplay : Reader.play top {} a with ⟨values, e | r⟩
  · rw [runFrom_complete_error hplay] at ha
    cases ha
  · rw [runFrom_complete hplay] at ha ⊢
    rw [runFrom_play .complete hplay]
    cases hfinish : r.finish top with
    | error e =>
      simp only [ofJson, hfinish] at ha
      cases ha
    | ok v? =>
      have hline : (ofJson top expand).step r lineEnd = _ := step_ofJson (Reader.step_lineEnd hfinish)
      rw [runFrom_cons hline, ← prepend_append]
      cases v? <;> simp [ofJson, hfinish, prepend]

/-- **A single value that is refused gives no record**, and nothing behind it does. -/
theorem runFrom_refused (hone : IsOneValue v)
    (hv : ((ofJson top expand).runFrom .complete {} v).error = some (.json .mismatched)) (rest : List UInt8) :
    (ofJson top expand).runFrom .complete {} (v ++ lineEnd :: rest) =
      { records := [], error := some (.json .mismatched) } := by
  rcases hone.play top with hnone | ⟨w, hw⟩
  · rcases hplay : Reader.play top {} v with ⟨values, e | r⟩
    all_goals
      rw [hplay] at hnone
      obtain rfl : values = [] := hnone
    · rw [runFrom_complete_error hplay] at hv
      cases hv
      exact runFrom_play_error .complete hplay (lineEnd :: rest)
    · rw [runFrom_complete hplay] at hv
      rw [runFrom_play .complete hplay]
      cases hfinish : r.finish top with
      | error e =>
        simp only [ofJson, hfinish] at hv
        cases hv
        have hline : (ofJson top expand).step r lineEnd = _ :=
          step_ofJson_error (Reader.step_lineEnd_mismatched hfinish)
        rw [runFrom_cons_error hline]
        rfl
      | ok v? =>
        cases v? <;> (simp only [ofJson, hfinish] at hv; cases hv)
  · rw [runFrom_complete hw] at hv
    cases hv

end RecordDecoder

namespace Decoding

/-- The formats that hold JSON values, of the shapes that they have. -/
def jsonFormats : List Format := [.json, .logEvents, .configuration, .change, .trail]

theorem decode_jsonFormat {format : Format} (h : format ∈ jsonFormats) : ∃ top expand, ∀ bytes : List UInt8,
    decode ⟨.identity, format⟩ bytes = (RecordDecoder.ofJson top expand).runFrom .complete {} bytes := by
  have hbytes : ∀ bytes : List UInt8, [bytes].flatten = bytes := by simp
  simp only [jsonFormats, List.mem_cons, List.not_mem_nil, or_false] at h
  rcases h with rfl | rfl | rfl | rfl | rfl
  all_goals exact ⟨_, _, fun bytes => congrArg ((RecordDecoder.ofJson _ _).runFrom .complete {}) (hbytes bytes)⟩

/-- **Objects of JSON values are decoded one behind the other**, and a value is expanded as a whole.  If the first one
ends without an error, its records come first and those of the second one follow, with the end of that.  If a single
value stands between them that is not of the expected shape, none of its records comes, and none behind it. -/
theorem decode_joined {format : Format} (hformat : format ∈ jsonFormats) {a : List UInt8}
    (ha : (decode ⟨.identity, format⟩ a).error = none) :
    (∀ b : List UInt8, decode ⟨.identity, format⟩ (a ++ lineEnd :: b) =
      RecordDecoder.prepend (decode ⟨.identity, format⟩ a).records (decode ⟨.identity, format⟩ b)) ∧
    ∀ v b : List UInt8, IsOneValue v → (decode ⟨.identity, format⟩ v).error = some (.json .mismatched) →
      decode ⟨.identity, format⟩ (a ++ lineEnd :: (v ++ lineEnd :: b)) =
        { records := (decode ⟨.identity, format⟩ a).records, error := some (.json .mismatched) } := by
  obtain ⟨top, expand, hdecode⟩ := decode_jsonFormat hformat
  simp only [hdecode] at ha ⊢
  refine ⟨RecordDecoder.runFrom_joined ha, fun v b hone hv => ?_⟩
  rw [RecordDecoder.runFrom_joined ha, RecordDecoder.runFrom_refused hone hv, RecordDecoder.prepend, List.append_nil]

def oneItem : List UInt8 := Utf8.encode "\x7b\"configurationItems\":[\x7b\"ARN\":\"a\"\x7d]\x7d"

/-- An item and, behind it, a number in place of one. -/
def badLastItem : List UInt8 := Utf8.encode "\x7b\"configurationItems\":[\x7b\"ARN\":\"b\"\x7d,5]\x7d"

theorem decode_joined_badLastItem : Format.configuration ∈ jsonFormats ∧
    (decode ⟨.identity, .configuration⟩ oneItem).error = none ∧ IsOneValue badLastItem ∧
    (decode ⟨.identity, .configuration⟩ badLastItem).error = some (.json .mismatched) ∧
    (decode ⟨.identity, .configuration⟩ (oneItem ++ lineEnd :: oneItem)).records =
      [.object [("ARN", .string "a")], .object [("ARN", .string "a")]] ∧
    ∀ b : List UInt8, decode ⟨.identity, .configuration⟩ (oneItem ++ lineEnd :: (badLastItem ++ lineEnd :: b)) =
      { records := [.object [("ARN", .string "a")]], error := some (.json .mismatched) } := by
  have hformat : Format.configuration ∈ jsonFormats := by decide
  have hone : decode ⟨.identity, .configuration⟩ oneItem = { records := [.object [("ARN", .string "a")]] } := rfl
  have herror : (decode ⟨.identity, .configuration⟩ oneItem).error = none := congrArg Decoded.error hone
  have hvalue : IsOneValue badLastItem := ⟨_, rfl⟩
  have hbad : (decode ⟨.identity, .configuration⟩ badLastItem).error = some (.json .mismatched) := rfl
  obtain ⟨hjoined, hrefused⟩ := decode_joined hformat herror
  refine ⟨hformat, herror, hvalue, hbad, ?_, fun b => ?_⟩
  · rw [hjoined, hone]
    rfl
  · rw [hrefused badLastItem b hvalue hbad, hone]

end Decoding
end ObjectRelay
