import GatewayProvisioning.Proofs.Cutting
import GatewayProvisioning.Proofs.NamedMembers
import GatewayProvisioning.Token.File

/-!
# Token files

A token is loaded from its file whether it stands there as it is or in a record of the secret store,
with blanks around it and other members beside it. Whatever a file holds, what is loaded is a token
without blanks around it, or the failure says that there is none.
-/

namespace GatewayProvisioning

namespace Text

theorem isAllBlank_iff {s : String} : isAllBlank s = true ↔ ∀ c ∈ s.toList, isBlank c = true :=
  List.all_eq_true

/-- Blanks around a text that has none at its ends are all that is trimmed. -/
theorem trim_around {w₁ w₂ s : String} (h₁ : isAllBlank w₁ = true) (h₂ : isAllBlank w₂ = true)
    (hs : trim s = s) : trim (w₁ ++ s ++ w₂) = s := by
  have haround : trim (w₁ ++ s ++ w₂) = trim s := by
    unfold trim
    rw [String.toList_append, String.toList_append,
      dropBothWhile_around (isAllBlank_iff.mp h₁) (isAllBlank_iff.mp h₂)]
  rw [haround, hs]

theorem trim_of_ends {s : String} (hfirst : ∀ c, s.toList.head? = some c → isBlank c = false)
    (hlast : ∀ c, s.toList.getLast? = some c → isBlank c = false) : trim s = s := by
  rw [trim, dropBothWhile_of_ends hfirst hlast, String.ofList_toList]

theorem trim_trim (s : String) : trim (trim s) = trim s := by
  unfold trim
  rw [String.toList_ofList, dropBothWhile_dropBothWhile]

/-- Only the empty text is blank and has no blanks at its ends. -/
theorem not_blank_of_trim {s : String} (h : trim s = s) (hne : s ≠ "") : isAllBlank s = false := by
  rw [Bool.eq_false_iff]
  intro hblank
  have hempty := trim_around hblank (show isAllBlank "" = true from rfl) (show trim "" = "" from rfl)
  rw [String.append_empty, String.append_empty, h] at hempty
  exact hne hempty

end Text

namespace Token

open Document Json

/-! ## Records of the secret store -/

/-- A text of a record that has `token` under `auth.client_token`, among whatever other members. -/
def HoldsToken (token text : String) : Prop :=
  ∃ outer inner, HasOnce "auth" (.record inner) outer ∧
    HasOnce "client_token" (.text token) inner ∧ Spelling (.record outer) text.toList

theorem understands_auth {token : String} {inner : List (String × Json)}
    (h : HasOnce "client_token" (.text token) inner) :
    authCodec.Understands (.record inner) token :=
  Codec.understands_record (by decide) (token, ())
    ⟨Field.told_required h.valuesOf (Codec.understands_text token), trivial⟩

theorem decode_record {token text : String} (h : HoldsToken token text) :
    fileCodec.decode (document text) = .ok token := by
  obtain ⟨outer, inner, houter, hinner, hspelled⟩ := h
  obtain ⟨node, hdocument, hmeans⟩ := hspelled.document
  have hread : fileCodec.Understands (.record outer) token :=
    Codec.understands_record (by decide) (token, ())
      ⟨Field.told_required houter.valuesOf (understands_auth hinner), trivial⟩
  rw [hdocument]
  exact Codec.decode_root (hread node hmeans)

theorem brace_ends {fields : List (String × Json)} {cs : List Char}
    (h : Spelling (.record fields) cs) : cs.head? = some '\x7b' ∧ cs.getLast? = some '\x7d' := by
  cases h with
  | emptyRecord inside => exact ⟨rfl, by simp [List.getLast?_cons]⟩
  | record before members => exact ⟨rfl, by simp [List.getLast?_cons]⟩

/-! ## Loading -/

variable {files : FileSource} {path : String}

/-- What is loaded from a text is its token, unless nothing is left of that. -/
theorem load_of_text {text token : String} (hfile : files path = .ok (Utf8.encode text))
    (htoken : ofText path text = .ok token) (hne : Text.trim token ≠ "") :
    load files path = .ok (Text.trim token) := by
  have hfull : (Text.trim token).isEmpty = false := by
    rw [Bool.eq_false_iff]
    exact fun h => hne (String.isEmpty_iff.mp h)
  unfold load
  rw [hfile]
  simp only [Utf8.decode?_encode, htoken, bind, Except.bind, hfull]
  rfl

theorem ofText_plain {text : String} (h : (Text.trim text).toList.head? ≠ some '\x7b') :
    ofText path text = .ok (Text.trim text) := by
  unfold ofText
  exact if_neg h

theorem ofText_record {token text : String} (h : HoldsToken token (Text.trim text)) :
    ofText path text = .ok token := by
  have hdecoded := decode_record h
  obtain ⟨outer, inner, -, -, hspelled⟩ := h
  unfold ofText
  simp only [if_pos (brace_ends hspelled).1, hdecoded]

/-- A record begins and ends with its braces, so nothing is trimmed from it. -/
theorem trim_record {token text : String} (h : HoldsToken token text) : Text.trim text = text := by
  obtain ⟨outer, inner, -, -, hspelled⟩ := h
  obtain ⟨hfirst, hlast⟩ := brace_ends hspelled
  apply Text.trim_of_ends
  · intro c hc
    rw [hfirst] at hc
    cases hc
    decide
  · intro c hc
    rw [hlast] at hc
    cases hc
    decide

theorem ofText_cases (path text : String) :
    (∃ token, ofText path text = .ok token) ∨ ∃ fault, ofText path text = .error (.noToken fault) := by
  unfold ofText
  dsimp only
  split
  · split
    · exact .inl ⟨_, rfl⟩
    · exact .inr ⟨_, rfl⟩
  · exact .inl ⟨_, rfl⟩

/-- A token is loaded from whatever file, or it is said that there is none. -/
theorem load_cases (files : FileSource) (path : String) :
    (∃ token, load files path = .ok token ∧ token ≠ "" ∧ Text.trim token = token) ∨
      ∃ fault, load files path = .error (.noToken fault) := by
  unfold load
  rcases files path with fault | bytes
  · exact .inr ⟨_, rfl⟩
  rcases hdecoded : Utf8.decode? bytes with _ | text
  · refine .inr ⟨.notText path, ?_⟩
    simp only [hdecoded]
  rcases ofText_cases path text with ⟨token, htoken⟩ | ⟨fault, hfault⟩
  · simp only [hdecoded, htoken, bind, Except.bind]
    by_cases hempty : (Text.trim token).isEmpty = true
    · exact .inr ⟨.empty path, if_pos hempty⟩
    · refine .inl ⟨Text.trim token, if_neg hempty, ?_, Text.trim_trim token⟩
      exact fun h => hempty (String.isEmpty_iff.mpr h)
  · refine .inr ⟨fault, ?_⟩
    simp only [hdecoded, hfault, bind, Except.bind]

/-- The plain form of a token file and the form of the secret store agree: with any blanks around
either, both are loaded as the token. Every other file is loaded as a token without blanks around it,
or it is said that there is no token. -/
theorem token_forms_agree :
    (∀ token before after : String, token ≠ "" → Text.trim token = token →
      Text.isAllBlank before = true → Text.isAllBlank after = true →
      ∀ (files : FileSource) (path : String),
        (token.toList.head? ≠ some '\x7b' →
          files path = .ok (Utf8.encode (before ++ token ++ after)) →
          load files path = .ok token) ∧
        ∀ written record : String, Text.trim written = token → HoldsToken written record →
          files path = .ok (Utf8.encode (before ++ record ++ after)) →
          load files path = .ok token) ∧
    ∀ (files : FileSource) (path : String),
      (∃ token, load files path = .ok token ∧ token ≠ "" ∧ Text.trim token = token ∧
        Text.isAllBlank token = false) ∨
      ∃ fault, load files path = .error (.noToken fault) := by
  constructor
  · intro token before after hne htrim hbefore hafter files path
    constructor
    · intro hplain hfile
      have htrimmed := Text.trim_around hbefore hafter htrim
      have htoken : ofText path (before ++ token ++ after) = .ok token := by
        rw [ofText_plain (by rwa [htrimmed]), htrimmed]
      have hload := load_of_text hfile htoken (by rwa [htrim])
      rwa [htrim] at hload
    · intro written record hwritten hholds hfile
      have htrimmed := Text.trim_around hbefore hafter (trim_record hholds)
      have htoken : ofText path (before ++ record ++ after) = .ok written :=
        ofText_record (by rwa [htrimmed])
      have hload := load_of_text hfile htoken (by rwa [hwritten])
      rwa [hwritten] at hload
  · intro files path
    rcases load_cases files path with ⟨token, hload, hne, htrim⟩ | hfault
    · exact .inl ⟨token, hload, hne, htrim, Text.not_blank_of_trim htrim hne⟩
    · exact .inr hfault

/-! ## A record with escapes -/

/-- The token is spelled with escapes, and other members stand at both levels. -/
def escapedRecord : String :=
  "\x7b \"auth\": \x7b\"renewable\":true,\"client_token\":\"\\u0073.json\\n\"\x7d,\"warnings\":[null]\x7d"

theorem textSpelling_escaped : TextSpelling "s.json\n" "\"\\u0073.json\\n\"".toList := by
  have hs : List.Forall₂ UnitSpelling (units 's') ["\\u0073".toList] := .cons (.mk (by decide)) .nil
  have hn : CharSpelling '\n' "\\n".toList := .short (by decide)
  exact .mk (s := "s.json\n") (.cons (.units hs) <| .cons (charSpelling_plain (by decide)) <|
    .cons (charSpelling_plain (by decide)) <| .cons (charSpelling_plain (by decide)) <|
    .cons (charSpelling_plain (by decide)) <| .cons (charSpelling_plain (by decide)) <|
    .cons hn .nil)

theorem holdsToken_escapedRecord : HoldsToken "s.json\n" escapedRecord := by
  have hblank : Blank [' '] := by simp [Blank, isSpace]
  have hrenewable : FieldSpelling ("renewable", .flag true) _ :=
    .mk (textSpelling_plain (by decide)) blank_nil blank_nil (.flag true)
  have htoken : FieldSpelling ("client_token", .text "s.json\n") _ :=
    .mk (textSpelling_plain (by decide)) blank_nil blank_nil (.text textSpelling_escaped)
  have hauth : FieldSpelling ("auth", .record [("renewable", .flag true),
      ("client_token", .text "s.json\n")]) _ :=
    .mk (textSpelling_plain (by decide)) blank_nil hblank
      (.record blank_nil (.more hrenewable blank_nil blank_nil (.last htoken blank_nil)))
  have hwarnings : FieldSpelling ("warnings", .list [.null]) _ :=
    .mk (textSpelling_plain (by decide)) blank_nil blank_nil
      (.list blank_nil (.last .null blank_nil))
  have hrecord := Spelling.record hblank (.more hauth blank_nil blank_nil (.last hwarnings blank_nil))
  refine ⟨[("auth", .record [("renewable", .flag true), ("client_token", .text "s.json\n")]),
    ("warnings", .list [.null])], [("renewable", .flag true), ("client_token", .text "s.json\n")],
    ⟨[], _, rfl, by simp⟩, ⟨[_], [], rfl, by simp⟩, ?_⟩
  convert hrecord using 1
  decide

/-- A file with the record is loaded as the token alone is, also behind a no-break space. -/
theorem token_forms_agree_escaped :
    load (fun _ => .ok (Utf8.encode ("\u00a0" ++ escapedRecord ++ "\n"))) "token" = .ok "s.json" ∧
      load (fun _ => .ok (Utf8.encode ("\u00a0" ++ "s.json" ++ "\n"))) "token" = .ok "s.json" := by
  have hforms := token_forms_agree.1 "s.json" "\u00a0" "\n" (by decide) (by decide) (by decide)
    (by decide)
  exact ⟨(hforms _ "token").2 "s.json\n" escapedRecord (by decide) holdsToken_escapedRecord rfl,
    (hforms _ "token").1 (by decide) rfl⟩

end Token

end GatewayProvisioning
