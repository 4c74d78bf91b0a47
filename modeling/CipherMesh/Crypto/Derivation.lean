import CipherMesh.Crypto.Primitives
import Mathlib.Data.Set.Basic

/-!
# What can be computed from stolen secrets

A thief has some blocks and some private keys.  All public keys are public, so a private
key gives every secret that it shares; HKDF can be computed from its inputs.
-/

namespace CipherMesh

open Foundation

/-- Blocks and private keys that were stolen. -/
structure Loot (P : Primitives) where
  blocks : Set P.Block
  privateKeys : Set P.PrivateKey

namespace Primitives

variable (P : Primitives)

/-- A shared secret is not the output of HKDF. -/
def DhSeparate : Prop :=
  ∀ own peer salt input info index, P.diffieHellman own peer ≠ P.hkdf salt input info index

end Primitives

variable {P : Primitives} {loot : Loot P}

/-- The thief can compute the block. -/
inductive Derivable (loot : Loot P) : P.Block → Prop where
  | stolen {block : P.Block} (member : block ∈ loot.blocks) : Derivable loot block
  | shared {key : P.PrivateKey} (member : key ∈ loot.privateKeys) (publicKey : P.PublicKey) :
      Derivable loot (P.diffieHellman key publicKey)
  | hkdf {salt : Option P.Block} {input : List P.Block} (info : Bytes) (index : Nat)
      (salted : ∀ block ∈ salt, Derivable loot block)
      (keyed : ∀ block ∈ input, Derivable loot block) :
      Derivable loot (P.hkdf salt input info index)

/-- A stolen private key shares the secret with somebody. -/
def Loot.Shares (loot : Loot P) (block : P.Block) : Prop :=
  ∃ key ∈ loot.privateKeys, ∃ publicKey, P.diffieHellman key publicKey = block

/-- More loot gives more. -/
theorem Derivable.mono {more : Loot P} (blocks : loot.blocks ⊆ more.blocks)
    (privateKeys : loot.privateKeys ⊆ more.privateKeys) {block : P.Block}
    (derivable : Derivable loot block) : Derivable more block := by
  induction derivable with
  | stolen member => exact .stolen (blocks member)
  | shared member publicKey => exact .shared (privateKeys member) publicKey
  | hkdf info index _ _ saltIH inputIH => exact .hkdf info index saltIH inputIH

/-- HKDF output is stolen itself, or all its inputs can be computed. -/
theorem derivable_hkdf_iff (injective : P.HkdfInjective) (separate : P.DhSeparate)
    {salt : Option P.Block} {input : List P.Block} {info : Bytes} {index : Nat} :
    Derivable loot (P.hkdf salt input info index) ↔
      P.hkdf salt input info index ∈ loot.blocks ∨
        (∀ block ∈ salt, Derivable loot block) ∧ ∀ block ∈ input, Derivable loot block := by
  constructor
  · intro derivable
    generalize same : P.hkdf salt input info index = output at derivable
    cases derivable with
    | stolen member => exact .inl member
    | shared member publicKey => exact absurd same.symm (separate _ _ _ _ _ _)
    | hkdf info' index' salted keyed =>
        obtain ⟨rfl, rfl, _, _⟩ := injective same
        exact .inr ⟨salted, keyed⟩
  · rintro (member | ⟨salted, keyed⟩)
    · exact .stolen member
    · exact .hkdf info index salted keyed

/-- A shared secret is stolen itself, or a stolen private key shares it. -/
theorem derivable_shared_iff (separate : P.DhSeparate) {own : P.PrivateKey}
    {peer : P.PublicKey} :
    Derivable loot (P.diffieHellman own peer) ↔
      P.diffieHellman own peer ∈ loot.blocks ∨ loot.Shares (P.diffieHellman own peer) := by
  constructor
  · intro derivable
    generalize same : P.diffieHellman own peer = secret at derivable
    cases derivable with
    | stolen member => exact .inl member
    | @shared key member publicKey => exact .inr ⟨key, member, publicKey, rfl⟩
    | hkdf info index salted keyed => exact absurd same (separate _ _ _ _ _ _)
  · rintro (member | ⟨key, member, publicKey, same⟩)
    · exact .stolen member
    · exact same ▸ .shared member publicKey

end CipherMesh
