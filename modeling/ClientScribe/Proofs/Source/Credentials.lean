import ClientScribe.Proofs.Client.Descriptor
import ClientScribe.Output.ClientFile
import ClientScribe.Proofs.Text.UpperCase

/-!
# Credentials in Addresses

An address may name a user in front of its host, `user:password@`. An `Address` is what stands
around the user, and every source that is an address is such a one, with a user or without
(`isUrl_iff`).

What a description gets from its address as its host is the whole authority, user and all
(`Address.parts_of_ofText`). The description keeps its own host if it has one. Then the address
gives it a scheme at most, and the user does not matter. A description that names no host says the
user, and the literal of its descriptor has the user in it (`credentials_shown_iff`).
-/

namespace ClientScribe

namespace Source

variable {c : CodePoint} {d e : Char} {s : Text} {p : Char → Bool} {b : Bool}

/-! ### Addresses and users -/

/-- An address without the user that it may name in front of its host. -/
structure Address where
  scheme : Text
  host : Text
  rest : Text
  isHttp : scheme.map (·.mapChar Char.toLower) ∈ ["http", "https"].map Text.ofString
  host_inside : ∀ c ∈ host, c.satisfies endsAuthority = false
  host_bare : .char '@' ∉ host
  rest_behind : ∀ c ∈ rest.head?, c.satisfies endsAuthority = true

/-- A user as an address names one, with the password if there is one. -/
structure UserInfo where
  text : Text
  inside : ∀ c ∈ text, c.satisfies endsAuthority = false

namespace Address

/-- The host with the user in front of it. -/
def authority (a : Address) : Option UserInfo → Text
  | none => a.host
  | some user => user.text ++ "@" ++ a.host

/-- The address with the user. -/
def text (a : Address) (user : Option UserInfo) : Text :=
  a.scheme ++ ("://" ++ (a.authority user ++ a.rest))

end Address

/-! ### Letters -/

/-- Only a letter has a small form of its own, which is a letter too. -/
theorem toLower_cases (d : Char) :
    d.toLower = d ∨ (d.isAlpha = true ∧ d.toLower.isAlpha = true) := by
  by_cases hupper : d.isUpper = true
  · have hascii : d.toNat < 128 := by
      have hbounds := Text.Case.isUpper_iff.mp hupper
      omega
    refine .inr ?_
    revert hupper
    exact Text.Case.forall_ascii hascii (by decide)
  · exact .inl (dif_neg fun h => hupper (Text.Case.isUpper_iff.mpr h))

/-- A letter is different from what is no letter. -/
theorem beq_eq_false_of_isAlpha (hd : d.isAlpha = true) (he : e.isAlpha = false) :
    (d == e) = false :=
  beq_false_of_ne fun h => by simp [← h, hd] at he

/-- What all letters answer to a question a letter of a text answers. -/
theorem satisfies_eq_of_isAlpha (h : c.satisfies Char.isAlpha = true)
    (hp : ∀ d, d.isAlpha = true → p d = b) : c.satisfies p = b := by
  cases c with
  | half n => cases h
  | char d => exact hp d h

/-- A scheme consists of letters. -/
theorem Address.isAlpha_of_mem_scheme (a : Address) (hc : c ∈ a.scheme) :
    c.satisfies Char.isAlpha = true := by
  have hletters : ∀ scheme ∈ ["http", "https"].map Text.ofString,
      ∀ c ∈ scheme, c.satisfies Char.isAlpha = true := by decide
  have hsmall := hletters _ a.isHttp _ (List.mem_map_of_mem hc)
  cases c with
  | half n => exact hsmall
  | char d =>
      have hsmall : d.toLower.isAlpha = true := hsmall
      obtain h | ⟨h, -⟩ := toLower_cases d
      · rwa [h] at hsmall
      · exact h

/-- An address has a scheme. -/
theorem Address.scheme_ne_nil (a : Address) : a.scheme ≠ [] := by
  intro h
  have hne : ∀ scheme ∈ ["http", "https"].map Text.ofString, scheme ≠ [] := by decide
  exact hne _ a.isHttp (List.map_eq_nil_iff.mpr h)

/-! ### Characters that are passed over -/

/-- Whether a character is passed over wherever it stands in an address. -/
def isBreak (c : Char) : Bool :=
  c == '\t' || c == '\r' || c == '\n'

/-- The text without the characters that are passed over. -/
def withoutBreaks (s : Text) : Text :=
  s.filter (!·.satisfies isBreak)

/-- What is seen of a user. -/
def UserInfo.shown (user : UserInfo) : Text := withoutBreaks user.text

/-- Of two texts one after the other the breaks are taken out one by one. -/
theorem withoutBreaks_append (s t : Text) :
    withoutBreaks (s ++ t) = withoutBreaks s ++ withoutBreaks t :=
  List.filter_append s t

/-- Letters have no breaks to take out. -/
theorem withoutBreaks_of_isAlpha (h : ∀ c ∈ s, c.satisfies Char.isAlpha = true) :
    withoutBreaks s = s := by
  refine List.filter_eq_self.mpr fun c hc => ?_
  have hbreak : c.satisfies isBreak = false := satisfies_eq_of_isAlpha (h c hc) fun d hd => by
    simp only [isBreak, beq_eq_false_of_isAlpha hd (e := '\t') rfl,
      beq_eq_false_of_isAlpha hd (e := '\r') rfl, beq_eq_false_of_isAlpha hd (e := '\n') rfl,
      Bool.or_self]
  rw [hbreak, Bool.not_false]

/-- Nothing of a text inside an authority leads out of it. -/
theorem inside_withoutBreaks (h : ∀ c ∈ s, c.satisfies endsAuthority = false) :
    ∀ c ∈ withoutBreaks s, c.satisfies endsAuthority = false :=
  fun c hc => h c (List.mem_of_mem_filter hc)

/-- A delimiter at the start of a text stays there. -/
theorem behind_withoutBreaks (h : ∀ c ∈ s.head?, c.satisfies endsAuthority = true) :
    ∀ c ∈ (withoutBreaks s).head?, c.satisfies endsAuthority = true := by
  cases s with
  | nil => exact h
  | cons c s =>
      have hc := h c rfl
      have hbreak : c.satisfies isBreak = false := by
        cases c with
        | half n => cases hc
        | char d =>
            simp only [CodePoint.satisfies, endsAuthority, Bool.or_eq_true, beq_iff_eq] at hc
            obtain (rfl | rfl) | rfl := hc <;> rfl
      have hkept : withoutBreaks (c :: s) = c :: withoutBreaks s := by
        simp [withoutBreaks, hbreak]
      rw [hkept]
      exact h

/-! ### The parts of an address -/

/-- What stands behind two slashes up to a delimiter is the authority. -/
theorem takeAuthority_append {authority rest : Text}
    (hauthority : ∀ c ∈ authority, c.satisfies endsAuthority = false)
    (hrest : ∀ c ∈ rest.head?, c.satisfies endsAuthority = true) :
    takeAuthority ("//" ++ (authority ++ rest)) = (authority, rest) := by
  have hinside : ∀ c ∈ authority, (!c.satisfies endsAuthority) = true :=
    fun c hc => by rw [hauthority c hc, Bool.not_false]
  have htaken : rest.takeWhile (!·.satisfies endsAuthority) = [] := by
    cases rest with
    | nil => rfl
    | cons c rest => exact List.takeWhile_cons_of_neg (by simp [hrest c rfl])
  have hleft : rest.dropWhile (!·.satisfies endsAuthority) = rest := by
    cases rest with
    | nil => rfl
    | cons c rest => exact List.dropWhile_cons_of_neg (by simp [hrest c rfl])
  show ((authority ++ rest).takeWhile _, (authority ++ rest).dropWhile _) = _
  rw [List.takeWhile_append_of_pos hinside, List.dropWhile_append_of_pos hinside, htaken, hleft,
    List.append_nil]

/-- Letters in front of a colon are the scheme, and the authority is looked for behind it. -/
theorem parts_of_letters {text scheme rest : Text} {url : Url}
    (hkept : withoutBreaks (text.dropWhile (·.satisfies (·.toNat ≤ 32))) =
      scheme ++ .char ':' :: rest)
    (hne : scheme ≠ []) (hletters : ∀ c ∈ scheme, c.satisfies Char.isAlpha = true)
    (h : Url.ofText text = .ok url) :
    url.authority = (takeAuthority rest).1 ∧ url.scheme = scheme.map (·.mapChar Char.toLower) := by
  have hfront : (scheme ++ .char ':' :: rest).takeWhile (· != .char ':') = scheme := by
    have hcolon : ∀ c ∈ scheme, (c != .char ':') = true := by
      intro c hc
      refine bne_iff_ne.mpr ?_
      rintro rfl
      cases hletters _ hc
    rw [List.takeWhile_append_of_pos hcolon, List.takeWhile_cons_of_neg (by simp),
      List.append_nil]
  have hlength : scheme.length < (scheme ++ .char ':' :: rest).length := by simp
  have hhead : scheme.head?.any (·.satisfies Char.isAlpha) = true := by
    obtain ⟨c, more, rfl⟩ := List.exists_cons_of_ne_nil hne
    exact hletters c List.mem_cons_self
  have hall : scheme.all (·.satisfies isSchemeChar) = true :=
    List.all_eq_true.mpr fun c hc => satisfies_eq_of_isAlpha (hletters c hc) fun d hd => by
      simp [isSchemeChar, Char.isAlphanum, hd]
  have hrest : (scheme ++ .char ':' :: rest).drop (scheme.length + 1) = rest := by simp
  have hkept : List.filter (!·.satisfies fun c => c == '\t' || c == '\r' || c == '\n')
      (text.dropWhile (·.satisfies (·.toNat ≤ 32))) = scheme ++ .char ':' :: rest := hkept
  simp only [Url.ofText, hkept, hfront, hlength, hhead, hall, hrest, decide_true, Bool.and_self,
    if_true] at h
  split at h
  · obtain rfl := Except.ok.inj h
    exact ⟨rfl, rfl⟩
  · cases h

namespace Address

variable {a : Address} {user user' : Option UserInfo} {url : Url}

/-- The authority of an address, with a user or without, goes on to its end. -/
theorem inside_authority (a : Address) (user : Option UserInfo) :
    ∀ c ∈ a.authority user, c.satisfies endsAuthority = false := by
  cases user with
  | none => exact a.host_inside
  | some user =>
      intro c hc
      simp only [authority, List.mem_append] at hc
      obtain (hc | hc) | hc := hc
      · exact user.inside c hc
      · obtain rfl := List.mem_singleton.mp hc
        rfl
      · exact a.host_inside c hc

/-- What is left of an address when line ends and tabs are passed over. -/
theorem kept_text (a : Address) (user : Option UserInfo) :
    withoutBreaks ((a.text user).dropWhile (·.satisfies (·.toNat ≤ 32))) =
      a.scheme ++ .char ':' :: (Text.ofString "//" ++
        (withoutBreaks (a.authority user) ++ withoutBreaks a.rest)) := by
  have hstart : (a.text user).dropWhile (·.satisfies (·.toNat ≤ 32)) = a.text user := by
    obtain ⟨c, rest, hscheme⟩ := List.exists_cons_of_ne_nil a.scheme_ne_nil
    have hc := a.isAlpha_of_mem_scheme (hscheme ▸ List.mem_cons_self)
    have hbeyond : c.satisfies (·.toNat ≤ 32) = false := satisfies_eq_of_isAlpha hc fun d hd => by
      rw [Text.Case.isAlpha_iff, Text.Case.isUpper_iff, Text.Case.isLower_iff] at hd
      exact decide_eq_false (by omega)
    rw [text, hscheme, List.cons_append]
    exact List.dropWhile_cons_of_neg (by simp [hbeyond])
  rw [hstart, text, withoutBreaks_append, withoutBreaks_append, withoutBreaks_append,
    withoutBreaks_of_isAlpha fun _ => a.isAlpha_of_mem_scheme]
  rfl

/-- **The authority of an address is its host with the user in front.** -/
theorem parts_of_ofText (h : Url.ofText (a.text user) = .ok url) :
    url.authority = withoutBreaks (a.authority user) ∧
      url.scheme = a.scheme.map (·.mapChar Char.toLower) := by
  obtain ⟨hauthority, hscheme⟩ := parts_of_letters (a.kept_text user) a.scheme_ne_nil
    (fun _ => a.isAlpha_of_mem_scheme) h
  rw [takeAuthority_append (inside_withoutBreaks (a.inside_authority user))
    (behind_withoutBreaks a.rest_behind)] at hauthority
  exact ⟨hauthority, hscheme⟩

/-- Two users show in the same authority only if the same is seen of them. -/
theorem authority_eq_iff : withoutBreaks (a.authority user) = withoutBreaks (a.authority user') ↔
    user.map UserInfo.shown = user'.map UserInfo.shown := by
  have hbare (user : UserInfo) : withoutBreaks (a.authority (some user)) =
      user.shown ++ .char '@' :: withoutBreaks a.host := by
    rw [authority, withoutBreaks_append, withoutBreaks_append, List.append_assoc]
    rfl
  have hlonger (user : UserInfo) :
      withoutBreaks (a.authority (some user)) ≠ withoutBreaks (a.authority none) := by
    intro h
    have hlength := congrArg List.length h
    rw [hbare, authority, List.length_append, List.length_cons] at hlength
    omega
  cases user with
  | none =>
      cases user' with
      | none => simp
      | some user' => simpa using (hlonger user').symm
  | some user =>
      cases user' with
      | none => simpa using hlonger user
      | some user' =>
          rw [hbare, hbare, List.append_left_inj]
          simp

end Address

/-! ### All addresses -/

/-- What is no letter in lower case is itself in lower case. -/
theorem mapChar_toLower_eq_self (h : (c.mapChar Char.toLower).satisfies (!·.isAlpha) = true) :
    c.mapChar Char.toLower = c := by
  cases c with
  | half n => cases h
  | char d =>
      have h : (!d.toLower.isAlpha) = true := h
      obtain hself | ⟨-, hletter⟩ := toLower_cases d
      · exact congrArg CodePoint.char hself
      · simp [hletter] at h

/-- What has no letters is the small form of nothing but itself. -/
theorem eq_of_map_toLower {t : Text} (ht : ∀ c ∈ t, c.satisfies (!·.isAlpha) = true)
    (h : s.map (·.mapChar Char.toLower) = t) : s = t := by
  subst h
  have hself : ∀ c ∈ s, c.mapChar Char.toLower = c := fun c hc =>
    mapChar_toLower_eq_self (ht _ (List.mem_map_of_mem hc))
  rw [List.map_congr_left hself, List.map_id']

/-- An authority has a user in front of its last `@` if it has any. -/
theorem exists_address {scheme authority rest : Text}
    (isHttp : scheme.map (·.mapChar Char.toLower) ∈ ["http", "https"].map Text.ofString)
    (hauthority : ∀ c ∈ authority, c.satisfies endsAuthority = false)
    (hrest : ∀ c ∈ rest.head?, c.satisfies endsAuthority = true) :
    ∃ (a : Address) (user : Option UserInfo),
      scheme ++ ("://" ++ (authority ++ rest)) = a.text user := by
  by_cases hat : .char '@' ∈ authority
  · obtain ⟨host, user, hsplit, hbare⟩ :=
      List.eq_append_cons_of_mem (List.mem_reverse.mpr hat)
    have hsplit : authority = user.reverse ++ "@" ++ host.reverse := by
      rw [← List.reverse_inj, hsplit]
      simp
      rfl
    subst hsplit
    refine ⟨⟨scheme, host.reverse, rest, isHttp, fun c hc => hauthority c ?_, ?_, hrest⟩,
      some ⟨user.reverse, fun c hc => hauthority c ?_⟩, rfl⟩
    · exact List.mem_append_right _ hc
    · rwa [List.mem_reverse]
    · exact List.mem_append_left _ (List.mem_append_left _ hc)
  · exact ⟨⟨scheme, authority, rest, isHttp, hauthority, hat, hrest⟩, none, rfl⟩

/-- A source is an address if one of the two schemes and slashes come first. -/
theorem isUrl_iff_exists_append : isUrl s = true ↔
    ∃ scheme ∈ ["http", "https"].map Text.ofString,
      scheme ++ Text.ofString "://" <+: s.map (·.mapChar Char.toLower) := by
  have hhttp : Text.ofString "http://" = Text.ofString "http" ++ "://" := rfl
  have hhttps : Text.ofString "https://" = Text.ofString "https" ++ "://" := rfl
  simp [isUrl, hhttp, hhttps]

/-- **Every source that is an address is one with a user or without.** -/
theorem isUrl_iff : isUrl s = true ↔ ∃ (a : Address) (user : Option UserInfo), s = a.text user := by
  rw [isUrl_iff_exists_append]
  constructor
  · rintro ⟨scheme, hhttp, rest, h⟩
    rw [List.append_assoc] at h
    obtain ⟨front, behind, rfl, rfl, hbehind⟩ := List.map_eq_append_iff.mp h.symm
    obtain ⟨slashes, tail, rfl, hslashes, -⟩ := List.map_eq_append_iff.mp hbehind
    obtain rfl := eq_of_map_toLower (by decide) hslashes
    rw [← List.takeWhile_append_dropWhile (p := (!·.satisfies endsAuthority)) (l := tail)]
    refine exists_address hhttp (fun c hc => ?_) fun c hc => ?_
    · simpa using List.all_eq_true.mp List.all_takeWhile c hc
    · have hends := List.head?_dropWhile_not (!·.satisfies endsAuthority) tail
      rw [Option.mem_def.mp hc] at hends
      simpa using hends
  · rintro ⟨a, user, rfl⟩
    refine ⟨_, a.isHttp, (a.authority user ++ a.rest).map (·.mapChar Char.toLower), ?_⟩
    simp only [Address.text, List.map_append, List.append_assoc]
    rfl

end Source

namespace Api

open Document (Value Entries lookup)
open Source (Address UserInfo isUrl_iff withoutBreaks)

variable {es derived derived' : Entries} {source source' : Option Text} {document d d' : Value}
  {host host' scheme : Text}

/-- Whether a description names its host. -/
def NamesHost (document : Value) : Prop :=
  ∃ es, rootEntries document = .ok es ∧ (lookup "host" es).isSome = true

/-- The host of an address has the user in front of it. -/
theorem origin_eq_ok {address : Address} {user : Option UserInfo} {host scheme : Text}
    (h : origin (some (address.text user)) = .ok (host, scheme)) :
    host = withoutBreaks (address.authority user) ∧
      scheme = address.scheme.map (·.mapChar Char.toLower) := by
  have hurl : Source.isUrl (address.text user) = true := isUrl_iff.mpr ⟨address, user, rfl⟩
  simp only [origin, Option.filter_some, hurl, if_true, Result.map_eq_ok_iff] at h
  obtain ⟨url, hurl, hparts⟩ := h
  obtain ⟨rfl, rfl⟩ := Prod.mk.inj hparts
  exact Address.parts_of_ofText hurl

/-- Where the description names its host, another host of its source makes no difference. -/
theorem derivedFields_eq (h : derivedFields es source = .ok derived)
    (h' : derivedFields es source' = .ok derived') (hsource : origin source = .ok (host, scheme))
    (hsource' : origin source' = .ok (host', scheme))
    (hhost : (lookup "host" es).isSome = true ∨ host = host') : derived = derived' := by
  simp only [derivedFields, hsource, hsource', Result.bind_eq_ok_iff, Result.pure_def,
    Except.ok.injEq] at h h'
  obtain ⟨basePath, hbasePath, _, rfl, rfl⟩ := h
  obtain ⟨basePath', hbasePath', _, rfl, rfl⟩ := h'
  obtain rfl := Except.ok.inj (hbasePath.symm.trans hbasePath')
  obtain hnamed | rfl := hhost
  · have hkept (host : Text) (base : Value) :
        putNew "host" (.str host) (Document.put (.str "basePath") base es) =
          Document.put (.str "basePath") base es :=
      if_pos (Document.lookup_put_isSome hnamed)
    rw [hkept, hkept]
  · rfl

/-- Two documents with derived fields are the same if the fields that are derived are. -/
theorem withDerivedFields_eq (h : withDerivedFields document source = .ok d)
    (h' : withDerivedFields document source' = .ok d')
    (hderived : ∀ {es derived derived'}, rootEntries document = .ok es →
      derivedFields es source = .ok derived → derivedFields es source' = .ok derived' →
      derived = derived') : d = d' := by
  unfold withDerivedFields at h h'
  split at h
  · next ring id =>
    simp only [Result.bind_eq_ok_iff, Result.pure_def, Except.ok.injEq] at h h'
    obtain ⟨es, hes, derived, hd, rfl⟩ := h
    obtain ⟨es', hes', derived', hd', rfl⟩ := h'
    obtain rfl := Except.ok.inj (hes.symm.trans hes')
    rw [hderived hes hd hd']
  · next hplain =>
    have hroot : rootEntries document = document.entries := by
      unfold rootEntries
      split
      · next ring id => exact absurd rfl (hplain ring id)
      · rfl
    simp only [Result.bind_eq_ok_iff, Result.pure_def, Except.ok.injEq] at h h'
    obtain ⟨es, hes, derived, hd, rfl⟩ := h
    obtain ⟨es', hes', derived', hd', rfl⟩ := h'
    obtain rfl := Except.ok.inj (hes.symm.trans hes')
    rw [hderived (hroot.trans hes) hd hd']

end Api

namespace Client

open Api (NamesHost withDerivedFields)
open Document (Value Entries lookup record)
open Source (Address UserInfo withoutBreaks)

variable {document d d' : Value} {address : Address} {user user' : Option UserInfo} {v : Value}
  {k : Text} {es : Entries} {texts : List Text} {level : Nat}

/-- The description says the host of its address if it has none of its own. -/
theorem field_host (h : withDerivedFields document (some (address.text user)) = .ok d)
    (hhost : ¬NamesHost document) :
    d.field "host" = .ok (.str (withoutBreaks (address.authority user))) := by
  obtain ⟨es, derived, f, hes, hderived, hf, hview⟩ := Api.withDerivedFields_eq_ok h
  obtain ⟨_, host, scheme, -, horigin, hderived⟩ := Api.derivedFields_eq_ok hderived
  obtain ⟨rfl, -⟩ := Api.origin_eq_ok horigin
  have hnone : lookup "host" es = none :=
    Option.not_isSome_iff_eq_none.mp fun hsome => hhost ⟨es, hes, hsome⟩
  rw [field_of_withDerivedFields hf hview, hderived.host, hnone]
  exact congrArg Except.ok (hf.eq_of_ne_link (by simp))

/-! ### The literal of the host -/

/-- The literal of an entry is one of the literals of the entries. -/
theorem exists_mem_of_printEntries (he : (.str k, v) ∈ es)
    (h : Json.printEntries level es = .ok texts) :
    ∃ text, Json.print level v = .ok text ∧
      Text.ofChars (Json.literalText k) ++ ": " ++ text ∈ texts := by
  induction es generalizing texts with
  | nil => cases he
  | cons e es ih =>
      obtain ⟨key, w⟩ := e
      rw [Json.printEntries] at h
      obtain ⟨keyText, hkey, h⟩ := Result.bind_eq_ok_iff.mp h
      obtain ⟨text, htext, h⟩ := Result.bind_eq_ok_iff.mp h
      obtain ⟨more, hmore, h⟩ := Result.bind_eq_ok_iff.mp h
      obtain rfl := Except.ok.inj h
      obtain heq | he := List.mem_cons.mp he
      · obtain ⟨rfl, rfl⟩ := Prod.mk.inj heq
        obtain rfl := Except.ok.inj hkey
        exact ⟨text, htext, List.mem_cons_self⟩
      · obtain ⟨text, htext, hmem⟩ := ih he hmore
        exact ⟨text, htext, List.mem_cons_of_mem _ hmem⟩

/-- A part of a row stands in the row. -/
theorem isInfix_intercalate {part : Text} {parts : List Text} (h : part ∈ parts)
    (between : Text) : part <:+: Text.intercalate between parts := by
  induction parts with
  | nil => cases h
  | cons first more ih =>
      cases more with
      | nil =>
          obtain rfl := List.mem_singleton.mp h
          simp [Text.intercalate]
      | cons next more =>
          rw [Text.intercalate, List.intercalate_cons_cons]
          obtain rfl | h := List.mem_cons.mp h
          · exact List.infix_append_left.trans List.infix_append_left
          · exact (ih h).trans List.infix_append_right

/-- A part of a collection stands in the text of the collection. -/
theorem isInfix_bracketed {part : Text} {parts : List Text} (h : part ∈ parts)
    (opening closing : Text) : part <:+: Json.bracketed level opening closing parts := by
  have hne : parts.isEmpty = false := by
    cases parts with
    | nil => cases h
    | cons first more => rfl
  rw [Json.bracketed, if_neg (by simp [hne])]
  obtain ⟨before, behind, hparts⟩ := isInfix_intercalate h ("," ++ Json.lineStart (level + 1))
  rw [← hparts]
  refine ⟨opening ++ Json.lineStart (level + 1) ++ before,
    behind ++ Json.lineStart level ++ closing, ?_⟩
  simp only [List.append_assoc]

/-- The literal of the descriptor has the literal of a host in it. -/
theorem isInfix_view {options : Options} {view : DescriptorView} {host : Text}
    (hhost : d.field "host" = .ok (.str host)) (h : descriptorView d options = .ok view) :
    singleQuoted (Text.ofChars (Json.literalText host)) <:+: view.view := by
  obtain ⟨v, hv, h⟩ := Result.bind_eq_ok_iff.mp h
  obtain ⟨literal, hliteral, h⟩ := Result.bind_eq_ok_iff.mp h
  obtain rfl := Except.ok.inj h
  obtain ⟨fields, hfield, rfl⟩ : ∃ fields, (Text.ofString "host", Value.str host) ∈ fields ∧
      v = record fields := by
    simp only [descriptor, hhost, Result.ok_bind, Result.bind_eq_ok_iff, Result.pure_def,
      Except.ok.injEq] at hv
    obtain ⟨schemes, -, basePath, -, contentTypes, -, accepts, -, components, -, security, -,
      rfl⟩ := hv
    exact ⟨_, List.mem_filter.mpr ⟨List.mem_cons_self, rfl⟩, rfl⟩
  rw [record, Json.print] at hliteral
  obtain ⟨texts, htexts, hliteral⟩ := Result.bind_eq_ok_iff.mp hliteral
  obtain rfl := Except.ok.inj hliteral
  obtain ⟨text, htext, hmem⟩ := exists_mem_of_printEntries
    (List.mem_map_of_mem (f := fun e => (Value.str e.1, e.2)) hfield) htexts
  obtain rfl := Except.ok.inj ((print_str _ host).symm.trans htext)
  exact (List.infix_append_right.trans (isInfix_bracketed hmem _ _)).map _

/-! ### Two users -/

/-- **The user of an address is said exactly where the description names no host.** Two addresses
that differ in the user only give a description the same derived fields if it names its host, and
then one descriptor; otherwise only if the same is seen of both users. The literal of a description
without a host has the authority of its address in it, with the user and the password. -/
theorem credentials_shown_iff (h : withDerivedFields document (some (address.text user)) = .ok d)
    (h' : withDerivedFields document (some (address.text user')) = .ok d') :
    (d = d' ↔ NamesHost document ∨ user.map UserInfo.shown = user'.map UserInfo.shown) ∧
      (NamesHost document → ∀ options,
        Output.descriptorFile d options = Output.descriptorFile d' options) ∧
      (¬NamesHost document → ∀ options view, descriptorView d options = .ok view →
        singleQuoted (Text.ofChars (Json.literalText (withoutBreaks (address.authority user)))) <:+:
          view.view) := by
  have hsame (hnamed : NamesHost document ∨ user.map UserInfo.shown = user'.map UserInfo.shown) :
      d = d' := by
    refine Api.withDerivedFields_eq h h' fun hes hderived hderived' => ?_
    obtain ⟨_, host, scheme, -, horigin, -⟩ := Api.derivedFields_eq_ok hderived
    obtain ⟨_, host', scheme', -, horigin', -⟩ := Api.derivedFields_eq_ok hderived'
    obtain ⟨rfl, rfl⟩ := Api.origin_eq_ok horigin
    obtain ⟨rfl, rfl⟩ := Api.origin_eq_ok horigin'
    refine Api.derivedFields_eq hderived hderived' horigin horigin' (hnamed.imp ?_ ?_)
    · rintro ⟨es, hes', hhost⟩
      obtain rfl := Except.ok.inj (hes.symm.trans hes')
      exact hhost
    · exact Address.authority_eq_iff.mpr
  refine ⟨⟨fun hd => or_iff_not_imp_left.mpr fun hhost => ?_, hsame⟩, fun hhost options => ?_,
    fun hhost options view hview => isInfix_view (field_host h hhost) hview⟩
  · have hfield := (field_host h hhost).symm.trans (hd ▸ field_host h' hhost)
    exact Address.authority_eq_iff.mp (Value.str.inj (Except.ok.inj hfield))
  · rw [hsame (.inl hhost)]

/-- The address of a service's description. -/
def serviceAddress : Address where
  scheme := "https"
  host := "api.test"
  rest := "/openapi.json"
  isHttp := by decide
  host_inside := by decide
  host_bare := by decide
  rest_behind := by decide

/-- A user with a password. -/
def secretUser : UserInfo where
  text := "user:secret"
  inside := by decide

/-- A description with a host. -/
def hostedDescription : Value := record [("host", .str "pets.test")]

/-- A description with a host does not say who read it. -/
theorem credentials_shown_hosted :
    ∃ d d', withDerivedFields hostedDescription (some (serviceAddress.text (some secretUser))) =
        .ok d ∧
      withDerivedFields hostedDescription (some (serviceAddress.text none)) = .ok d' ∧ d = d' := by
  obtain ⟨d, hd⟩ : ∃ d, withDerivedFields hostedDescription
      (some (serviceAddress.text (some secretUser))) = .ok d := ⟨_, rfl⟩
  obtain ⟨d', hd'⟩ : ∃ d', withDerivedFields hostedDescription
      (some (serviceAddress.text none)) = .ok d' := ⟨_, rfl⟩
  have hnames : NamesHost hostedDescription := ⟨_, rfl, rfl⟩
  exact ⟨d, d', hd, hd', (credentials_shown_iff hd hd').1.mpr (.inl hnames)⟩

/-- The descriptor of a description without a host has the password of its address in it. -/
theorem exists_password_written :
    ∃ d d' file file',
      withDerivedFields (.map []) (some (serviceAddress.text (some secretUser))) = .ok d ∧
      withDerivedFields (.map []) (some (serviceAddress.text none)) = .ok d' ∧
      Output.descriptorFile d (.usual "out") = .ok file ∧
      Output.descriptorFile d' (.usual "out") = .ok file' ∧ d ≠ d' ∧
      isPartOf "user:secret@api.test" file.contents = true ∧
      isPartOf "secret" file'.contents = false := by
  refine ⟨_, _, _, _, rfl, rfl, rfl, rfl, fun h => ?_, by decide +kernel, by decide +kernel⟩
  exact absurd (congrArg (fun d : Value => (d.field "host").toOption.bind Value.text?) h)
    (by decide +kernel)

end Client

end ClientScribe
