import Promch.Library.Base64
import Promch.Library.Dict

/-!
# Reading Secrets

The reader asks the API server for a Secret and decodes its values.  What is not
base64 text, or not the encoding of a text, is left out.
-/

namespace Promch

/-- The bytes of a text. -/
def utf8 (text : String) : List UInt8 :=
  text.toUTF8.data.toList

/-- The text that bytes encode, if there is one. -/
def textOf? (bytes : List UInt8) : Option String :=
  String.fromUTF8? ⟨bytes.toArray⟩

/-- The bytes of a base64 value; text that is not ASCII is rejected. -/
def b64decode (value : String) : Option (List UInt8) :=
  if value.toList.all fun char => char.toNat < 128 then Base64.decode value.toList else none

/-- The text of a value. -/
def decodedText? (value : String) : Option String :=
  (b64decode value).bind textOf?

/-- The answer of the API server: its status, and the `data` of its body. -/
structure SecretResponse where
  status : Int
  data : Option (Dict String String) := none

/-- A Secret could not be read. -/
def secretNotFound (secretNamespace name : String) : String :=
  "secret " ++ secretNamespace ++ "/" ++ name ++ " not found"

def secretUnreadable (secretNamespace name : String) (status : Int) : String :=
  "reading secret " ++ secretNamespace ++ "/" ++ name ++ ": API server returned HTTP " ++
    toString status

/-- The decoded data of a Secret, from the answer of the API server. -/
def readSecret
    (secretNamespace name : String)
    (response : SecretResponse) : Except String (Dict String String) :=
  if response.status = 404 then .error (secretNotFound secretNamespace name)
  else if response.status ≠ 200 then
    .error (secretUnreadable secretNamespace name response.status)
  else .ok ((response.data.getD Dict.empty).filterMapValues decodedText?)

/-! ## Texts -/

/-- Decoding is the inverse of encoding. -/
theorem textOf?_eq_some_iff {bytes : List UInt8} {text : String} :
    textOf? bytes = some text ↔ bytes = utf8 text := by
  unfold textOf? String.fromUTF8? utf8
  constructor
  · intro decoded
    split at decoded
    · cases decoded
      simp [String.fromUTF8]
    · cases decoded
  · rintro rfl
    have valid : (⟨text.toUTF8.data.toList.toArray⟩ : ByteArray).IsValidUTF8 := by
      simpa using text.isValidUTF8
    rw [dif_pos valid]
    simp [String.fromUTF8]

/-! ## Values -/

/-- A value in the answer stands for bytes: their base64 text, into which other
characters may have been strewn, such as line breaks. -/
structure Renders (value : String) (bytes : List UInt8) : Prop where
  ascii : value.toList.all fun char => char.toNat < 128
  encodes : value.toList.filter Base64.isSignificant = Base64.encode bytes

theorem b64decode_of_renders
    {value : String}
    {bytes : List UInt8}
    (renders : Renders value bytes) :
    b64decode value = some bytes := by
  rw [b64decode, if_pos renders.ascii]
  exact Base64.decode_of_filter renders.encodes

/-- A value is decoded to a text exactly when its bytes are those of the text. -/
theorem decodedText?_of_renders
    {value text : String}
    {bytes : List UInt8}
    (renders : Renders value bytes) :
    decodedText? value = some text ↔ bytes = utf8 text := by
  rw [decodedText?, b64decode_of_renders renders, Option.bind_some, textOf?_eq_some_iff]

/-! ## Secrets -/

/-- The answer shows what the owner stored under every key. -/
structure SecretResponse.Shows
    (response : SecretResponse)
    (content : Dict String (List UInt8)) : Prop where
  found : response.status = 200
  rendered : ∀ key,
    Option.Rel Renders ((response.data.getD Dict.empty).get? key) (content.get? key)

/-- The reader returns the texts that the owner stored, and nothing else. -/
theorem readSecret_of_shows
    {response : SecretResponse}
    {content : Dict String (List UInt8)}
    (secretNamespace name : String)
    (answered : response.Shows content) :
    ∃ texts, readSecret secretNamespace name response = .ok texts ∧
      ∀ key text, texts.get? key = some text ↔ content.get? key = some (utf8 text) := by
  refine ⟨(response.data.getD Dict.empty).filterMapValues decodedText?, ?_, ?_⟩
  · simp [readSecret, answered.found]
  · intro key text
    rw [Dict.get?_filterMapValues]
    have rendered := answered.rendered key
    cases value : (response.data.getD Dict.empty).get? key with
    | none =>
        rw [value] at rendered
        cases stored : content.get? key with
        | none => simp
        | some bytes =>
            rw [stored] at rendered
            cases rendered
    | some value =>
        rw [value] at rendered
        cases stored : content.get? key with
        | none =>
            rw [stored] at rendered
            cases rendered
        | some bytes =>
            rw [stored] at rendered
            cases rendered with
            | some renders =>
                rw [Option.bind_some, decodedText?_of_renders renders, Option.some.injEq]

/-- What the reader makes of an answer: the texts that the owner stored, and nothing
else, or an error that names the Secret. -/
def SecretResponse.IsReadTo
    (response : SecretResponse)
    (secretNamespace name : String)
    (content : Dict String (List UInt8)) : Except String (Dict String String) → Prop
  | .ok texts =>
      response.status = 200 ∧
        ∀ key text, texts.get? key = some text ↔ content.get? key = some (utf8 text)
  | .error message =>
      response.status ≠ 200 ∧
        message = if response.status = 404 then secretNotFound secretNamespace name
          else secretUnreadable secretNamespace name response.status

/-- The reader succeeds whenever the server delivers the Secret, whatever is stored in
it besides texts. -/
theorem secret_isReadTo
    {response : SecretResponse}
    {content : Dict String (List UInt8)}
    (secretNamespace name : String)
    (delivers : response.status = 200 → response.Shows content) :
    response.IsReadTo secretNamespace name content
      (readSecret secretNamespace name response) := by
  by_cases found : response.status = 200
  · obtain ⟨texts, read, exactly⟩ := readSecret_of_shows secretNamespace name (delivers found)
    rw [read]
    exact ⟨found, exactly⟩
  · unfold readSecret
    split
    · next missing => exact ⟨found, (if_pos missing).symm⟩
    · next other =>
        exact ⟨found, (if_neg other).symm⟩

/-- A Secret with a password and a binary value. -/
def storedSecret : Dict String (List UInt8) :=
  (Dict.empty.set "password" (utf8 "s3cret")).set "ca.der" [0x30, 0x82, 0xff]

/-- An answer that shows it, with a line break after each value. -/
def secretAnswer : SecretResponse where
  status := 200
  data := some ((Dict.empty.set "password" "czNjcmV0\n").set "ca.der" "MIL/\n")

theorem secretAnswer_shows : secretAnswer.Shows storedSecret where
  found := rfl
  rendered key := by
    simp only [secretAnswer, storedSecret, Option.getD_some, Dict.get?_set, Dict.get?_empty]
    by_cases binary : key = "ca.der"
    · subst binary
      exact .some ⟨by decide +kernel, by decide +kernel⟩
    · by_cases password : key = "password"
      · subst password
        exact .some ⟨by decide +kernel, by decide +kernel⟩
      · simp only [binary, password, if_false]
        exact .none

theorem secret_isReadTo_of_secretAnswer :
    secretAnswer.IsReadTo "operator" "s" storedSecret
      (readSecret "operator" "s" secretAnswer) :=
  secret_isReadTo "operator" "s" fun _ => secretAnswer_shows

end Promch
