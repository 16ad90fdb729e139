import AdaptiveRules.MatchContext
import Mathlib.Tactic

/-!
# What a key tells

The key of a context sets five parts side by side with colons between them.  The file stands first
and may hold colons, even whole keys, so the parts are told apart from the end: no number and no
name of a parser holds a colon, and neither does the language.  In the key of a call the key of the
context stands between a digest, whose length is fixed, and the name of a parser; without a
context nothing stands there, and the key of a context is never nothing.
-/

namespace AdaptiveRules

/-! ### Parts between separators -/

section Separators

variable {α : Type} {a : α} {front front' back back' : List α}

/-- The first separator parts a list in one way. -/
theorem append_cons_inj (hfront : a ∉ front) (hfront' : a ∉ front')
    (heq : front ++ a :: back = front' ++ a :: back') : front = front' ∧ back = back' := by
  induction front generalizing front' with
  | nil =>
      cases front' with
      | nil => exact ⟨rfl, List.tail_eq_of_cons_eq heq⟩
      | cons b rest =>
          obtain ⟨rfl, _⟩ := List.cons.inj heq
          exact absurd List.mem_cons_self hfront'
  | cons b rest ih =>
      cases front' with
      | nil =>
          obtain ⟨rfl, _⟩ := List.cons.inj heq
          exact absurd List.mem_cons_self hfront
      | cons c rest' =>
          obtain ⟨rfl, hrest⟩ := List.cons.inj heq
          obtain ⟨rfl, hback⟩ := ih (fun h => hfront (List.mem_cons_of_mem _ h))
            (fun h => hfront' (List.mem_cons_of_mem _ h)) hrest
          exact ⟨rfl, hback⟩

/-- The last separator parts a list in one way. -/
theorem append_cons_inj_last (hback : a ∉ back) (hback' : a ∉ back')
    (heq : front ++ a :: back = front' ++ a :: back') : front = front' ∧ back = back' := by
  have hreverse : back.reverse ++ a :: front.reverse = back'.reverse ++ a :: front'.reverse := by
    simpa using congrArg List.reverse heq
  obtain ⟨hbacks, hfronts⟩ := append_cons_inj (fun h => hback (List.mem_reverse.mp h))
    (fun h => hback' (List.mem_reverse.mp h)) hreverse
  exact ⟨List.reverse_inj.mp hfronts, List.reverse_inj.mp hbacks⟩

end Separators

theorem colon_notMem_toString (n : Nat) : ':' ∉ (toString n).toList := by
  intro hmem
  have hdigit : ':' ∈ Nat.toDigits 10 n := by rwa [← Nat.toList_repr]
  exact absurd (Nat.isDigit_of_mem_toDigits (by norm_num) (by norm_num) hdigit) (by decide)

theorem eq_of_toString_eq {m n : Nat} (heq : (toString m).toList = (toString n).toList) :
    m = n := by
  have hdigits : Nat.toDigits 10 m = Nat.toDigits 10 n := by
    rwa [← Nat.toList_repr, ← Nat.toList_repr]
  rw [← Nat.ofDigitChars_ten_toDigits (n := m), hdigits, Nat.ofDigitChars_ten_toDigits]

namespace ParserKind

theorem name_injective : Function.Injective name := by
  intro a b hab
  cases a <;> cases b <;> first | rfl | exact absurd hab (by decide)

theorem colon_notMem_name (parser : ParserKind) : ':' ∉ parser.name.toList := by
  cases parser <;> decide

end ParserKind

/-! ### Digests -/

namespace Sha256

theorem length_bigEndian (count n : Nat) : (bigEndian count n).length = count := by
  simp [bigEndian]

theorem length_digest (message : List UInt8) : (digest message).length = 32 := by
  simp [digest, State.words, length_bigEndian]

theorem length_hex (text : String) : (hex text).toList.length = 64 := by
  have hdouble : ∀ bytes : List UInt8, (bytes.flatMap hexByte).length = 2 * bytes.length := by
    intro bytes
    induction bytes with
    | nil => rfl
    | cons b rest ih =>
        simp only [List.flatMap_cons, List.length_append, List.length_cons, ih, hexByte,
          List.length_nil]
        omega
  rw [hex, String.toList_ofList, hdouble, length_digest]

theorem hexByte_injective : Function.Injective hexByte := by
  intro b c hbytes
  have hdigits : ∀ m < 16, ∀ n < 16, Nat.digitChar m = Nat.digitChar n → m = n := by decide
  obtain ⟨hhigh, hlow⟩ := List.cons.inj hbytes
  have hb := b.toNat_lt
  have hc := c.toNat_lt
  have hhigh := hdigits _ (by omega) _ (by omega) hhigh
  have hlow := hdigits _ (by omega) _ (by omega) (List.cons.inj hlow).1
  exact UInt8.toNat_inj.mp (by omega)

theorem flatMap_hexByte_injective :
    Function.Injective fun bytes : List UInt8 => bytes.flatMap hexByte := by
  intro bytes others heq
  induction bytes generalizing others with
  | nil =>
      cases others with
      | nil => rfl
      | cons c rest => exact absurd heq (List.cons_ne_nil _ _).symm
  | cons b rest ih =>
      cases others with
      | nil => exact absurd heq (List.cons_ne_nil _ _)
      | cons c more =>
          obtain ⟨hfirst, hrest⟩ := List.append_inj heq rfl
          rw [hexByte_injective hfirst, ih hrest]

/-- The bytes that a digest is made of. -/
def ofText (text : String) : List UInt8 := digest text.toUTF8.data.toList

theorem hex_eq_hex_iff {text other : String} :
    hex text = hex other ↔ ofText text = ofText other := by
  rw [hex, hex, String.ofList_inj]
  exact flatMap_hexByte_injective.eq_iff

end Sha256

namespace MatchContext

/-! ### Contexts -/

/-- No colon stands in the language. -/
def IsPlain (c : MatchContext) : Prop := ':' ∉ c.language.toList

/-- Two contexts agree in all that their keys are made of. -/
structure SameParts (c d : MatchContext) : Prop where
  file : c.file = d.file
  dependencies : c.dependencyCount = d.dependencyCount
  projectPatterns : c.projectPatterns.length = d.projectPatterns.length
  parser : c.parser = d.parser
  language : c.language = d.language

theorem toList_key (c : MatchContext) : c.key.toList =
    (((c.file.toList ++ ':' :: (toString c.dependencyCount).toList) ++
      ':' :: (toString c.projectPatterns.length).toList) ++ ':' :: c.parser.name.toList) ++
        ':' :: c.language.toList := by
  simp [key]

theorem key_eq_key_iff {c d : MatchContext} (hc : c.IsPlain) (hd : d.IsPlain) :
    c.key = d.key ↔ c.SameParts d := by
  constructor
  · intro hkeys
    have hlists := congrArg String.toList hkeys
    rw [toList_key, toList_key] at hlists
    obtain ⟨hlists, hlanguage⟩ := append_cons_inj_last hc hd hlists
    obtain ⟨hlists, hparser⟩ := append_cons_inj_last (ParserKind.colon_notMem_name _)
      (ParserKind.colon_notMem_name _) hlists
    obtain ⟨hlists, hpatterns⟩ := append_cons_inj_last (colon_notMem_toString _)
      (colon_notMem_toString _) hlists
    obtain ⟨hfile, hdependencies⟩ := append_cons_inj_last (colon_notMem_toString _)
      (colon_notMem_toString _) hlists
    exact
      { file := String.toList_inj.mp hfile
        dependencies := eq_of_toString_eq hdependencies
        projectPatterns := eq_of_toString_eq hpatterns
        parser := ParserKind.name_injective (String.toList_inj.mp hparser)
        language := String.toList_inj.mp hlanguage }
  · rintro ⟨hfile, hdependencies, hpatterns, hparser, hlanguage⟩
    rw [key, key, hfile, hdependencies, hpatterns, hparser, hlanguage]

/-- The key of a context; empty where there is none. -/
def keyOf (context : Option MatchContext) : String := (context.map key).getD ""

theorem key_ne_empty (c : MatchContext) : c.key ≠ "" := by
  intro hkey
  have hlist := congrArg String.toList hkey
  rw [toList_key] at hlist
  exact absurd hlist (List.append_ne_nil_of_right_ne_nil _ (List.cons_ne_nil _ _))

/-- The key tells whether there is a context, and of the context what it is made of. -/
theorem keyOf_eq_keyOf_iff {context other : Option MatchContext}
    (hcontext : ∀ c ∈ context, c.IsPlain) (hother : ∀ d ∈ other, d.IsPlain) :
    keyOf context = keyOf other ↔ Option.Rel SameParts context other := by
  cases context with
  | none =>
      cases other with
      | none => exact ⟨fun _ => .none, fun _ => rfl⟩
      | some d => exact ⟨fun h => absurd h.symm (key_ne_empty d), nofun⟩
  | some c =>
      cases other with
      | none => exact ⟨fun h => absurd h (key_ne_empty c), nofun⟩
      | some d =>
          have hkeys := key_eq_key_iff (hcontext c rfl) (hother d rfl)
          exact ⟨fun h => .some (hkeys.mp h), fun | .some halike => hkeys.mpr halike⟩

/-! ### Calls -/

theorem toList_cacheKey (source contextKey : String) (parser : ParserKind) :
    (cacheKey source contextKey parser).toList =
      ((Sha256.hex source).toList ++ ':' :: contextKey.toList) ++ ':' :: parser.name.toList := by
  simp [cacheKey]

theorem cacheKey_eq_iff (source other contextKey otherKey : String)
    (parser otherParser : ParserKind) :
    cacheKey source contextKey parser = cacheKey other otherKey otherParser ↔
      Sha256.hex source = Sha256.hex other ∧ contextKey = otherKey ∧ parser = otherParser := by
  constructor
  · intro hkeys
    have hlists := congrArg String.toList hkeys
    rw [toList_cacheKey, toList_cacheKey] at hlists
    obtain ⟨hlists, hparser⟩ := append_cons_inj_last (ParserKind.colon_notMem_name _)
      (ParserKind.colon_notMem_name _) hlists
    obtain ⟨hdigest, hcontext⟩ := List.append_inj hlists (by simp only [Sha256.length_hex])
    exact ⟨String.toList_inj.mp hdigest, String.toList_inj.mp (List.cons.inj hcontext).2,
      ParserKind.name_injective (String.toList_inj.mp hparser)⟩
  · rintro ⟨hdigest, rfl, rfl⟩
    rw [cacheKey, cacheKey, hdigest]

/-- Equal keys name the same thing: of contexts the file, the numbers, the parser and the
language, of calls the digest of the source, the parser, and the same of the context or that there
is none. -/
theorem keys_tell_components :
    (∀ c d : MatchContext, c.IsPlain → d.IsPlain → (c.key = d.key ↔ c.SameParts d)) ∧
      ∀ (source other : String) (context otherContext : Option MatchContext)
        (parser otherParser : ParserKind),
        (∀ c ∈ context, c.IsPlain) → (∀ d ∈ otherContext, d.IsPlain) →
          (cacheKey source (keyOf context) parser =
              cacheKey other (keyOf otherContext) otherParser ↔
            Sha256.ofText source = Sha256.ofText other ∧ Option.Rel SameParts context otherContext ∧
              parser = otherParser) := by
  refine ⟨fun c d => key_eq_key_iff, ?_⟩
  intro source other context otherContext parser otherParser hcontext hother
  rw [cacheKey_eq_iff, Sha256.hex_eq_hex_iff, keyOf_eq_keyOf_iff hcontext hother]

/-- A file whose path looks like a key. -/
def keyLikeFile (dependencies : List String) (pattern : String) : MatchContext :=
  { MatchContext.ofFile "a.rs:0:0:custom:rust" "rust" .treeSitter with
    dependencies, projectPatterns := [pattern] }

theorem keys_tell_components_keyLike :
    (keyLikeFile ["x", "y"] "p").key = (keyLikeFile ["y", "z", "y"] "q").key ∧
      (keyLikeFile ["x", "y"] "p").SameParts (keyLikeFile ["y", "z", "y"] "q") ∧
      cacheKey "fn" (keyOf (some (keyLikeFile [] "p"))) .custom ≠
        cacheKey "fn" (keyOf none) .custom := by
  have hplain : ∀ dependencies pattern, (keyLikeFile dependencies pattern).IsPlain := by
    intro dependencies pattern
    show ':' ∉ "rust".toList
    decide
  have hkeys : (keyLikeFile ["x", "y"] "p").key = (keyLikeFile ["y", "z", "y"] "q").key := by
    decide +kernel
  have hsome : ∀ c ∈ some (keyLikeFile [] "p"), c.IsPlain := by
    rintro c ⟨⟩
    exact hplain _ _
  have hnone : ∀ d ∈ (none : Option MatchContext), d.IsPlain := by
    rintro d ⟨⟩
  refine ⟨hkeys, (keys_tell_components.1 _ _ (hplain _ _) (hplain _ _)).mp hkeys, fun hcalls => ?_⟩
  obtain ⟨_, hcontexts, _⟩ := (keys_tell_components.2 _ _ _ _ _ _ hsome hnone).mp hcalls
  cases hcontexts

end MatchContext
end AdaptiveRules
