import Mathlib.Data.Int.Notation

/-!
# The qualified product

What the product was qualified with: its hardware target, the identity of its firmware,
the core that it was built from, and the transmit profiles that it permits.
-/

namespace YwdTnc

def PRODUCT_TARGET : String := "mmdvm-hs-hat-stm32f103-simplex-14.7456-adf7021"

def QUALIFIED_FIRMWARE_IDENTITY : String :=
  "MMDVM_HS_Hat-YWD-1278-AX25R4-v0.1.0-alpha1 14.7456MHz ADF7021 FW based on CA6JAU GitID #7ff74ed"

def QUALIFIED_CORE_COMMIT : String := "c28c46c3478d7931af611923c92cd8f692a00858"

def QUALIFIED_CORE_TREE : String := "9c06dea088a30782674404f43d964b8317c128a3"

def QUALIFIED_TX_FREQUENCY_HZ : ℤ := 145050000
def QUALIFIED_TX_POWER : ℤ := 200
def APRS_TX_FREQUENCY_HZ : ℤ := 144390000
def APRS_TX_POWER : ℤ := 200

def PERMITTED_TX_PROFILES : List (ℤ × ℤ) :=
  [(QUALIFIED_TX_FREQUENCY_HZ, QUALIFIED_TX_POWER), (APRS_TX_FREQUENCY_HZ, APRS_TX_POWER)]

instance decidablePermitted (profile : ℤ × ℤ) : Decidable (profile ∈ PERMITTED_TX_PROFILES) :=
  inferInstance

end YwdTnc
