import ClientScribe.Proofs.Result
import ClientScribe.Proofs.Script.Row

/-!
# Reading A Printed Value

The literal of a value of JSON is printed with double quotes and then gets single ones. What is read
of it then is the value again exactly if the value is plain: no text in it, keys included, has a
quote of either kind, and no key is `__proto__` (`exists_read_iff`).

Both directions are proved together for a value and its literal (`PrintedAs`), by induction on the
value. That a literal is read up to its end, whatever stands behind it, is what carries the
induction from the parts of a collection to the collection.
-/

namespace ClientScribe.Script

open Client (singleQuoted)
open Document (Value Entries record)
open Json (literalText bracketed print printElements printEntries skipSpace)

/-! ### Values of JSON -/

/-- A value of JSON: no float is infinite or not a number, and the keys of a mapping are texts that
differ in their units. -/
inductive IsJson : Value → Prop
  | null : IsJson .null
  | bool (b : Bool) : IsJson (.bool b)
  | int (n : Int) : IsJson (.int n)
  | float {x : Float} {negative : Bool} {significand : Nat} {exponent : Int}
      (h : Decimal.Binary.ofFloat x = .finite negative significand exponent) : IsJson (.float x)
  | str (s : Text) : IsJson (.str s)
  | list {vs : List Value} (h : ∀ v ∈ vs, IsJson v) : IsJson (.list vs)
  | map {fields : List (Text × Value)} (keys : (fields.map fun f => Text.units f.1).Nodup)
      (h : ∀ f ∈ fields, IsJson f.2) : IsJson (record fields)

/-- A text without quotes of either kind. -/
def isQuoteFree (s : Text) : Bool := s.all fun c => !isQuote c

/-- A key that is read as this key. -/
def isPlainKey (k : Text) : Bool := isQuoteFree k && k != "__proto__"

mutual

/-- Whether no text in the value, keys included, has a quote, and no key is `__proto__`. -/
def isPlain : Value → Bool
  | .str s => isQuoteFree s
  | .list vs => arePlain vs
  | .map es => havePlainParts es
  | _ => true

/-- Whether all values are plain. -/
def arePlain : List Value → Bool
  | [] => true
  | v :: rest => isPlain v && arePlain rest

/-- Whether all keys and values of a mapping are plain. -/
def havePlainParts : Entries → Bool
  | [] => true
  | (k, v) :: rest => k.text?.all isPlainKey && isPlain v && havePlainParts rest

end

/-- All values are plain exactly when each of them is. -/
theorem arePlain_iff {vs : List Value} : arePlain vs = true ↔ ∀ v ∈ vs, isPlain v = true := by
  induction vs with
  | nil => simp [arePlain]
  | cons v vs ih => rw [arePlain, Bool.and_eq_true, ih, List.forall_mem_cons]

/-- A record is plain exactly when all its keys and all its values are. -/
theorem isPlain_record_iff {fields : List (Text × Value)} : isPlain (record fields) = true ↔
    ∀ f ∈ fields, isPlainKey f.1 = true ∧ isPlain f.2 = true := by
  rw [record, isPlain]
  induction fields with
  | nil => simp [havePlainParts]
  | cons f fields ih =>
      simp only [List.map_cons, havePlainParts, Bool.and_eq_true, ih, List.forall_mem_cons,
        Value.text?, Option.all_some]

/-- A text is free of quotes exactly when none of its code points is one. -/
theorem isQuoteFree_iff {s : Text} : isQuoteFree s = true ↔ ∀ c ∈ s, isQuote c = false := by
  simp [isQuoteFree]

/-! ### Opening characters -/

/-- Behind an opening bracket a row of values is read. -/
theorem value_bracket (fuel : Nat) (s : Text) : value (fuel + 1) (.char '[' :: s) =
    (row (value fuel) ']' fuel (skipSpace s)).map fun r => (.array r.1, r.2) := by
  rw [value]
  cases row (value fuel) ']' fuel (skipSpace s) <;> rfl

/-- Behind an opening brace a row of entries is read, none of which may be the prototype's. -/
theorem value_brace (fuel : Nat) (s : Text) : value (fuel + 1) (.char '\x7b' :: s) =
    (row (field (value fuel)) '\x7d' fuel (skipSpace s)).bind fun r =>
      if areOwn (r.1.map (·.1)) then some (.object r.1, r.2) else none := by
  rw [value]
  rfl

/-- Behind a quote a text is read. -/
theorem value_quote (fuel : Nat) (s : Text) : value (fuel + 1) (.char '\'' :: s) =
    (quotedUnits .plain s).map fun r => (.string r.1, r.2) := by
  rw [value]
  cases quotedUnits .plain s <;> rfl

/-! ### Printed values -/

/-- A value and its literal: a plain value is read back, and only a plain one is. -/
structure PrintedAs (v : Value) (t : Text) : Prop where
  opens : Opens t
  exists_readsAs : isPlain v = true → ∃ d, Denotes v d ∧ ReadsAs t.length t d
  isPlain_of_value : ∀ {fuel : Nat} {k r : Text} {d : Datum}, Delimited k →
    value fuel (singleQuoted t ++ k) = some (d, r) → Denotes v d → isPlain v = true ∧ r = k

/-- What has no parts and no text is plain and always read back. -/
theorem PrintedAs.of_readsAs {v : Value} {t : Text} {d : Datum} (hv : isPlain v = true)
    (ht : Opens t) (hd : Denotes v d) (hread : ReadsAs 1 t d) : PrintedAs v t where
  opens := ht
  exists_readsAs _ := ⟨d, hd, fun k hk fuel hfuel => hread k hk fuel (ht.length_pos.trans hfuel)⟩
  isPlain_of_value {fuel k r d'} hk h _ := by
    cases fuel with
    | zero => simp [value] at h
    | succ fuel =>
        rw [hread k hk (fuel + 1) (Nat.le_add_left 1 fuel)] at h
        exact ⟨hv, (congrArg Prod.snd (Option.some.inj h)).symm⟩

/-- A text in double quotes comes to stand in single ones. -/
theorem quoted_literalText (s k : Text) :
    singleQuoted (Text.ofChars (literalText s)) ++ k =
      .char '\'' :: (body s ++ .char '\'' :: k) := by
  simp [literalText, body, Text.ofChars, singleQuoted]

/-- A text. -/
theorem printedAs_str (s : Text) : PrintedAs (.str s) (Text.ofChars (literalText s)) where
  opens := ⟨'"', _, rfl, rfl⟩
  exists_readsAs hs := by
    refine ⟨.string s.units, .str s, fun k _ fuel hfuel => ?_⟩
    cases fuel with
    | zero => simp [literalText, Text.ofChars] at hfuel
    | succ fuel =>
        rw [quoted_literalText, value_quote, quotedUnits_body (isQuoteFree_iff.mp hs)]
        rfl
  isPlain_of_value {fuel k r d} _ h hd := by
    cases fuel with
    | zero => simp [value] at h
    | succ fuel =>
        rw [quoted_literalText, value_quote] at h
        obtain ⟨⟨units, rest⟩, hread, heq⟩ := Option.map_eq_some_iff.mp h
        obtain rfl : .string units = d := congrArg Prod.fst heq
        obtain rfl : rest = r := congrArg Prod.snd heq
        cases hd
        obtain ⟨hfree, hk⟩ := isQuote_of_quotedUnits hread
        exact ⟨isQuoteFree_iff.mpr hfree, hk⟩

/-- With fuel for a collection there is fuel for each of its parts. -/
theorem exists_fuel {level : Nat} {opening closing : Char} {ts : List Text} {fuel : Nat}
    (h : (bracketed level [.char opening] [.char closing] ts).length ≤ fuel) :
    ∃ least, fuel = least + 1 ∧ ts.length < least ∧ ∀ t ∈ ts, t.length ≤ least := by
  obtain ⟨hcount, hlength⟩ := length_bracketed level opening closing ts
  refine ⟨fuel - 1, by omega, by omega, fun t ht => ?_⟩
  have := hlength t ht
  omega

/-! ### Lists -/

section List

variable {vs : List Value} {ts : List Text}

/-- What is read of plain values, one by one. -/
theorem exists_elements (h : List.Forall₂ PrintedAs vs ts) (hvs : ∀ v ∈ vs, isPlain v = true) :
    ∃ ds, List.Forall₂ Denotes vs ds ∧
      ∀ fuel, (∀ t ∈ ts, t.length ≤ fuel) → List.Forall₂ (Reads (value fuel)) ts ds := by
  induction h with
  | nil => exact ⟨[], .nil, fun _ _ => .nil⟩
  | cons hv _ ih =>
      obtain ⟨hplain, hvs⟩ := List.forall_mem_cons.mp hvs
      obtain ⟨d, hd, hread⟩ := hv.exists_readsAs hplain
      obtain ⟨ds, hds, hreads⟩ := ih hvs
      refine ⟨d :: ds, .cons hd hds, fun fuel hfuel => ?_⟩
      obtain ⟨hlength, hfuel⟩ := List.forall_mem_cons.mp hfuel
      exact .cons ⟨hv.opens, fun k hk => hread k hk fuel hlength⟩ (hreads fuel hfuel)

/-- A list of printed values. -/
theorem printedAs_list {level : Nat} (h : List.Forall₂ PrintedAs vs ts) :
    PrintedAs (.list vs) (bracketed level [.char '['] [.char ']'] ts) where
  opens := by cases ts <;> exact ⟨'[', _, rfl, rfl⟩
  exists_readsAs hplain := by
    obtain ⟨ds, hds, hreads⟩ := exists_elements h (arePlain_iff.mp hplain)
    refine ⟨.array ds, .list hds, fun k _ fuel hfuel => ?_⟩
    obtain ⟨least, rfl, hcount, hlength⟩ := exists_fuel hfuel
    rw [quoted_bracketed (by decide) (.inl rfl), value_bracket,
      row_inside_of_reads (.inl rfl) (hreads least hlength) hcount]
    rfl
  isPlain_of_value {fuel k r d} _ hread hd := by
    cases fuel with
    | zero => simp [value] at hread
    | succ fuel =>
        rw [quoted_bracketed (by decide) (.inl rfl), value_bracket] at hread
        obtain ⟨⟨ds, rest⟩, hrow, heq⟩ := Option.map_eq_some_iff.mp hread
        obtain rfl : .array ds = d := congrArg Prod.fst heq
        obtain rfl : rest = r := congrArg Prod.snd heq
        cases hd with
        | list hds =>
            have hparts : List.Forall₂ (ReadsOnly (value fuel) Denotes (isPlain · = true)) vs ts :=
              h.imp fun v t hv => ⟨hv.opens, hv.isPlain_of_value⟩
            obtain ⟨hplain, hk⟩ := of_row_inside (.inl rfl) hparts hrow hds
            exact ⟨arePlain_iff.mpr hplain, hk⟩

end List

/-! ### Mappings -/

section Map

variable {fields : List (Text × Value)} {f : Text × Value} {t text : Text} {ts : List Text}

/-- The literal of an entry of a mapping. -/
def entryText (s text : Text) : Text := Text.ofChars (literalText s) ++ ": " ++ text

/-- An entry in single quotes is its key, a colon and a space, and its value. -/
theorem quoted_entryText (s text k : Text) : singleQuoted (entryText s text) ++ k =
    .char '\'' ::
      (body s ++ .char '\'' :: (.char ':' :: .char ' ' :: (singleQuoted text ++ k))) := by
  have hcolon : singleQuoted ((": " : String) : Text) = [.char ':', .char ' '] := rfl
  rw [entryText, List.append_assoc, singleQuoted_append, List.append_assoc, quoted_literalText,
    singleQuoted_append, hcolon]
  rfl

/-- The colon behind a key, and the value behind it. -/
theorem skipSpace_colon (htext : Opens text) (k : Text) :
    skipSpace (.char ':' :: .char ' ' :: (singleQuoted text ++ k)) =
        .char ':' :: .char ' ' :: (singleQuoted text ++ k) ∧
      skipSpace (.char ' ' :: (singleQuoted text ++ k)) = singleQuoted text ++ k :=
  ⟨rfl, skipSpace_of_opens (htext.quoted k)⟩

/-- A key without quotes is read up to its value. -/
theorem key_entryText {s : Text} (hs : isQuoteFree s = true) (htext : Opens text) (k : Text) :
    key (singleQuoted (entryText s text) ++ k) = some (s.units, singleQuoted text ++ k) := by
  obtain ⟨hcolon, hvalue⟩ := skipSpace_colon htext k
  rw [quoted_entryText, key, quotedUnits_body (isQuoteFree_iff.mp hs)]
  simp only [Option.bind_eq_bind, Option.bind_some, hcolon, hvalue]
  rfl

/-- A key that is read as itself has no quotes, and it is read up to its value. -/
theorem isQuoteFree_of_key {s k r : Text} (htext : Opens text)
    (h : key (singleQuoted (entryText s text) ++ k) = some (s.units, r)) :
    isQuoteFree s = true ∧ r = singleQuoted text ++ k := by
  obtain ⟨hcolon, hvalue⟩ := skipSpace_colon htext k
  rw [quoted_entryText, key] at h
  obtain ⟨⟨units, rest⟩, hread, h⟩ := Option.bind_eq_some_iff.mp h
  obtain rfl : units = s.units := by
    dsimp only at h
    split at h
    · exact congrArg Prod.fst (Option.some.inj h)
    · cases h
  obtain ⟨hs, rfl⟩ := isQuote_of_quotedUnits hread
  simp only [hcolon, hvalue] at h
  exact ⟨isQuoteFree_iff.mpr hs, (congrArg Prod.snd (Option.some.inj h)).symm⟩

/-- An entry of a mapping and its literal. -/
def EntryPrintedAs (f : Text × Value) (t : Text) : Prop :=
  ∃ text, t = entryText f.1 text ∧ PrintedAs f.2 text

/-- What is read of an entry. -/
def FieldDenotes (f : Text × Value) (own : List Nat × Datum) : Prop :=
  own.1 = Text.units f.1 ∧ Denotes f.2 own.2

/-- Entries denote what is read of them exactly when each of them does. -/
theorem denoteFields_iff {owns : List (List Nat × Datum)} :
    DenoteFields (fields.map fun f => (.str f.1, f.2)) owns ↔
      List.Forall₂ FieldDenotes fields owns := by
  induction fields generalizing owns with
  | nil =>
      constructor
      · intro h
        cases h
        exact .nil
      · intro h
        cases h
        exact .nil
  | cons f fields ih =>
      constructor
      · intro h
        cases h with
        | cons head tail => exact .cons ⟨rfl, head⟩ (ih.mp tail)
      · intro h
        cases h with
        | @cons _ own _ _ head tail =>
            obtain ⟨units, d⟩ := own
            obtain ⟨rfl, head⟩ := head
            exact .cons head (ih.mpr tail)

/-- What is read of plain entries, one by one. -/
theorem exists_owns (h : List.Forall₂ EntryPrintedAs fields ts)
    (hfields : ∀ f ∈ fields, isQuoteFree f.1 = true ∧ isPlain f.2 = true) :
    ∃ owns, List.Forall₂ FieldDenotes fields owns ∧
      ∀ fuel, (∀ t ∈ ts, t.length ≤ fuel) → List.Forall₂ (Reads (field (value fuel))) ts owns := by
  induction h with
  | nil => exact ⟨[], .nil, fun _ _ => .nil⟩
  | @cons f t fields ts hf _ ih =>
      obtain ⟨text, rfl, hprinted⟩ := hf
      obtain ⟨⟨hkey, hplain⟩, hfields⟩ := List.forall_mem_cons.mp hfields
      obtain ⟨d, hd, hread⟩ := hprinted.exists_readsAs hplain
      obtain ⟨owns, howns, hreads⟩ := ih hfields
      refine ⟨(f.1.units, d) :: owns, .cons ⟨rfl, hd⟩ howns, fun fuel hfuel => ?_⟩
      obtain ⟨hlength, hfuel⟩ := List.forall_mem_cons.mp hfuel
      refine .cons ⟨⟨'"', _, rfl, rfl⟩, fun k hk => ?_⟩ (hreads fuel hfuel)
      have htext : text.length ≤ fuel := by
        rw [entryText, List.length_append] at hlength
        omega
      rw [field, key_entryText hkey hprinted.opens, Option.bind_eq_bind, Option.bind_some]
      simp only [hread k hk fuel htext]
      rfl

/-- An entry that is read as what it is has a key without quotes and a plain value. -/
theorem readsOnly_entry {fuel : Nat} (h : EntryPrintedAs f t) :
    ReadsOnly (field (value fuel)) FieldDenotes
      (fun f => isQuoteFree f.1 = true ∧ isPlain f.2 = true) f t := by
  obtain ⟨text, rfl, hprinted⟩ := h
  refine ⟨⟨'"', _, rfl, rfl⟩, fun {k r own} hk hread hmeans => ?_⟩
  obtain ⟨⟨units, rest⟩, hkey, hread⟩ := Option.bind_eq_some_iff.mp hread
  obtain ⟨⟨d, rest'⟩, hvalue, hread⟩ := Option.bind_eq_some_iff.mp hread
  obtain ⟨rfl, rfl⟩ := Prod.mk.inj (Option.some.inj hread)
  obtain ⟨hunits, hd⟩ := hmeans
  obtain rfl : units = f.1.units := hunits
  obtain ⟨hfree, rfl⟩ := isQuoteFree_of_key hprinted.opens hkey
  obtain ⟨hplain, hr⟩ := hprinted.isPlain_of_value hk hvalue hd
  exact ⟨⟨hfree, hplain⟩, hr⟩

/-- The keys that are read are the units of the keys of the entries. -/
theorem map_fst_of_fieldDenotes {owns : List (List Nat × Datum)}
    (h : List.Forall₂ FieldDenotes fields owns) :
    owns.map (·.1) = fields.map fun f => Text.units f.1 := by
  induction h with
  | nil => rfl
  | cons hown _ ih => rw [List.map_cons, List.map_cons, hown.1, ih]

/-- A text of basic characters is the only one with its units. -/
theorem eq_ofChars_of_units {s : Text} {cs : List Char} (hcs : cs.all (·.toNat < 0xD800) = true)
    (h : Text.units s = Text.units (Text.ofChars cs)) : s = Text.ofChars cs := by
  induction cs generalizing s with
  | nil =>
      cases s with
      | nil => rfl
      | cons p s =>
          have hnil : p.units = [] := List.append_eq_nil_iff.mp h |>.1
          cases p with
          | half n => cases hnil
          | char c =>
              simp only [CodePoint.units] at hnil
              split at hnil <;> cases hnil
  | cons c cs ih =>
      obtain ⟨hc, hmore⟩ := Bool.and_eq_true_iff.mp hcs
      have hc := of_decide_eq_true hc
      have hunits :
          Text.units (Text.ofChars (c :: cs)) = c.toNat :: Text.units (Text.ofChars cs) := by
        simp only [Text.units, Text.ofChars, List.map_cons, List.flatMap_cons, CodePoint.units]
        rw [if_pos (by omega)]
        rfl
      rw [hunits] at h
      cases s with
      | nil => cases h
      | cons p s =>
          have hcons : p.units ++ Text.units s = c.toNat :: Text.units (Text.ofChars cs) := h
          cases p with
          | half n =>
              have hhead : CodePoint.firstHalf + n.val = c.toNat := (List.cons.inj hcons).1
              have hfirst : CodePoint.firstHalf = 0xD800 := rfl
              omega
          | char c' =>
              simp only [CodePoint.units] at hcons
              split at hcons
              · obtain ⟨hhead, hrest⟩ := List.cons.inj hcons
                obtain rfl : c' = c := Char.toNat_inj.mp hhead
                exact congrArg (CodePoint.char c' :: ·) (ih hmore hrest)
              · have hhead := (List.cons.inj hcons).1
                omega

/-- Keys that differ are the keys of an object's own fields if none of them is `__proto__`. -/
theorem areOwn_iff (hkeys : (fields.map fun f => Text.units f.1).Nodup) :
    areOwn (fields.map fun f => Text.units f.1) = true ↔ ∀ f ∈ fields, f.1 ≠ "__proto__" := by
  have hname (s : Text) : Text.units s = Text.units "__proto__" ↔ s = "__proto__" :=
    ⟨eq_ofChars_of_units rfl, congrArg Text.units⟩
  simp only [areOwn, hkeys, decide_true, Bool.true_and, Bool.not_eq_true', List.contains_eq_mem,
    decide_eq_false_iff_not, List.mem_map, hname, not_exists, not_and]

/-- A mapping of printed entries. -/
theorem printedAs_record {level : Nat} (hkeys : (fields.map fun f => Text.units f.1).Nodup)
    (h : List.Forall₂ EntryPrintedAs fields ts) :
    PrintedAs (record fields) (bracketed level [.char '\x7b'] [.char '\x7d'] ts) where
  opens := by cases ts <;> exact ⟨'\x7b', _, rfl, rfl⟩
  exists_readsAs hplain := by
    have hparts := isPlain_record_iff.mp hplain
    simp only [isPlainKey, Bool.and_eq_true, bne_iff_ne] at hparts
    obtain ⟨owns, howns, hreads⟩ := exists_owns h fun f hf => ⟨(hparts f hf).1.1, (hparts f hf).2⟩
    refine ⟨.object owns, .map (denoteFields_iff.mpr howns), fun k _ fuel hfuel => ?_⟩
    obtain ⟨least, rfl, hcount, hlength⟩ := exists_fuel hfuel
    rw [quoted_bracketed (by decide) (.inr rfl), value_brace,
      row_inside_of_reads (.inr rfl) (hreads least hlength) hcount, Option.bind_some,
      map_fst_of_fieldDenotes howns, if_pos ((areOwn_iff hkeys).mpr fun f hf => (hparts f hf).1.2)]
  isPlain_of_value {fuel k r d} _ hread hd := by
    cases fuel with
    | zero => simp [value] at hread
    | succ fuel =>
        rw [quoted_bracketed (by decide) (.inr rfl), value_brace] at hread
        obtain ⟨⟨owns, rest⟩, hrow, hread⟩ := Option.bind_eq_some_iff.mp hread
        split_ifs at hread with hown
        obtain ⟨rfl, rfl⟩ := Prod.mk.inj (Option.some.inj hread)
        have howns : List.Forall₂ FieldDenotes fields owns := by
          cases hd with
          | map hfields => exact denoteFields_iff.mp hfields
        obtain ⟨hparts, hk⟩ :=
          of_row_inside (.inr rfl) (h.imp fun f t => readsOnly_entry) hrow howns
        rw [map_fst_of_fieldDenotes howns] at hown
        have hproto := (areOwn_iff hkeys).mp hown
        refine ⟨isPlain_record_iff.mpr fun f hf => ⟨?_, (hparts f hf).2⟩, hk⟩
        simp only [isPlainKey, Bool.and_eq_true, bne_iff_ne]
        exact ⟨(hparts f hf).1, hproto f hf⟩

end Map

/-! ### All values -/

/-- The literals of the elements of a list. -/
theorem forall₂_printElements {level : Nat} {vs : List Value} {ts : List Text}
    (hvs : ∀ v ∈ vs, ∀ t, print level v = .ok t → PrintedAs v t)
    (h : printElements level vs = .ok ts) : List.Forall₂ PrintedAs vs ts := by
  induction vs generalizing ts with
  | nil =>
      rw [printElements] at h
      obtain rfl := Except.ok.inj h
      exact .nil
  | cons v vs ih =>
      obtain ⟨hv, hvs⟩ := List.forall_mem_cons.mp hvs
      rw [printElements] at h
      obtain ⟨t, ht, h⟩ := Result.bind_eq_ok_iff.mp h
      obtain ⟨ts, hts, h⟩ := Result.bind_eq_ok_iff.mp h
      obtain rfl := Except.ok.inj h
      exact .cons (hv t ht) (ih hvs hts)

/-- The literals of the entries of a mapping. -/
theorem forall₂_printEntries {level : Nat} {fields : List (Text × Value)} {ts : List Text}
    (hfields : ∀ f ∈ fields, ∀ t, print level f.2 = .ok t → PrintedAs f.2 t)
    (h : printEntries level (fields.map fun f => (.str f.1, f.2)) = .ok ts) :
    List.Forall₂ EntryPrintedAs fields ts := by
  induction fields generalizing ts with
  | nil =>
      rw [List.map_nil, printEntries] at h
      obtain rfl := Except.ok.inj h
      exact .nil
  | cons f fields ih =>
      obtain ⟨hf, hfields⟩ := List.forall_mem_cons.mp hfields
      rw [List.map_cons, printEntries] at h
      obtain ⟨key, hkey, h⟩ := Result.bind_eq_ok_iff.mp h
      obtain ⟨text, htext, h⟩ := Result.bind_eq_ok_iff.mp h
      obtain ⟨ts, hts, h⟩ := Result.bind_eq_ok_iff.mp h
      obtain rfl := Except.ok.inj h
      obtain rfl := Except.ok.inj hkey
      exact .cons ⟨text, rfl, hf text htext⟩ (ih hfields hts)

/-- Every value of JSON and its literal. -/
theorem printedAs {v : Value} (hv : IsJson v) {level : Nat} {t : Text}
    (h : print level v = .ok t) : PrintedAs v t := by
  induction hv generalizing level t with
  | null =>
      simp only [print, Json.scalarText, Except.ok.injEq] at h
      subst h
      exact .of_readsAs rfl ⟨'n', _, rfl, rfl⟩ .null readsAs_null
  | bool b =>
      simp only [print, Json.scalarText, Except.ok.injEq] at h
      subst h
      exact .of_readsAs rfl (by cases b <;> exact ⟨_, _, rfl, rfl⟩) (.bool b) (readsAs_bool b)
  | int n =>
      simp only [print, Json.scalarText, Document.intText] at h
      split_ifs at h
      · obtain rfl := Except.ok.inj h
        obtain ⟨d, hd, hopens, hread⟩ := readsAs_int n
        exact .of_readsAs rfl hopens hd hread
      · cases h
  | float hx =>
      simp only [print, Json.scalarText, Except.ok.injEq] at h
      subst h
      obtain ⟨d, hd, hopens, hread⟩ := readsAs_float hx
      exact .of_readsAs rfl hopens hd hread
  | str s =>
      simp only [print, Json.scalarText, Except.ok.injEq] at h
      subst h
      exact printedAs_str s
  | list _ ih =>
      rw [print] at h
      obtain ⟨ts, hts, h⟩ := Result.bind_eq_ok_iff.mp h
      obtain rfl := Except.ok.inj h
      exact printedAs_list (forall₂_printElements (fun v hv t => ih v hv) hts)
  | map hkeys _ ih =>
      rw [record, print] at h
      obtain ⟨ts, hts, h⟩ := Result.bind_eq_ok_iff.mp h
      obtain rfl := Except.ok.inj h
      exact printedAs_record hkeys (forall₂_printEntries (fun f hf t => ih f hf) hts)

/-- **What is read of a value's literal in single quotes is the value exactly if it is plain.** -/
theorem exists_read_iff {v : Value} (hv : IsJson v) {level : Nat} {t : Text}
    (h : print level v = .ok t) :
    (∃ d, read (singleQuoted t) = some d ∧ Denotes v d) ↔ isPlain v = true := by
  have hprinted := printedAs hv h
  have hstart : skipSpace (singleQuoted t) = singleQuoted t := by
    have hquoted := hprinted.opens.quoted []
    rw [List.append_nil] at hquoted
    exact skipSpace_of_opens hquoted
  have hlength : (singleQuoted t).length = t.length := List.length_map _
  have hend : Delimited [] := by simp [Delimited]
  unfold read
  rw [hstart, hlength]
  constructor
  · rintro ⟨d, hread, hd⟩
    obtain ⟨⟨d', rest⟩, hvalue, hread⟩ := Option.bind_eq_some_iff.mp hread
    dsimp only at hread
    split_ifs at hread
    obtain rfl := Option.some.inj hread
    rw [← List.append_nil (singleQuoted t)] at hvalue
    exact (hprinted.isPlain_of_value hend hvalue hd).1
  · intro hplain
    obtain ⟨d, hd, hread⟩ := hprinted.exists_readsAs hplain
    have hvalue := hread [] hend (t.length + 1) (Nat.le_succ _)
    rw [List.append_nil] at hvalue
    refine ⟨d, ?_, hd⟩
    rw [hvalue]
    rfl

end ClientScribe.Script
