/-!
What newer versions of the standard change in the letters, numbers, cases and marks of the other tables.
-/

set_option autoImplicit false

namespace CorpusSearch.Unicode.Table

/--
What a version of the standard changes in a property that an older one defines: ranges that gain the property
and ranges that lose it. Rows are packed as for categories, tag zero.
-/
structure Amendment where
  gained : List Nat
  lost : List Nat

namespace Amendment

def alphabetic : Amendment where
  gained := [
    0x00088f00088f00_000c5c000c5c00_000cdc000cdc00_00a7ce00a7cf00_00a7d200a7d200_00a7d400a7d400,
    0x00a7f100a7f100_01094001095900_010ec5010ec700_010efa010efb00_011b60011b6700_011db0011ddb00,
    0x016ea0016eb800_016ebb016ed300_016ff2016ff600_0187f80187ff00_018d09018d1e00_018d80018df200,
    0x01e6c001e6de00_01e6e001e6f500_01e6fe01e6ff00_02b73a02b73f00_02cea202cead00_0323b003347900]
  lost := []

/-- Changes among the decimal digits, letter numbers and other numbers. -/
def numeric : Amendment where
  gained := [
    0x011de0011de900_016ff4016ff600]
  lost := []

def uppercase : Amendment where
  gained := [
    0x00a7ce00a7ce00_00a7d200a7d200_00a7d400a7d400_016ea0016eb800]
  lost := []

def cased : Amendment where
  gained := [
    0x00a7ce00a7cf00_00a7d200a7d200_00a7d400a7d400_00a7f100a7f100_016ea0016eb800_016ebb016ed300]
  lost := [
    0x00029500029500]

def caseIgnorable : Amendment where
  gained := [
    0x001acf001add00_001ae0001aeb00_00a7f100a7f100_010ec5010ec500_010efa010efb00_011b60011b6000,
    0x011b62011b6400_011b66011b6600_011dd9011dd900_016ff2016ff300_01e6e301e6e300_01e6e601e6e600,
    0x01e6ee01e6ef00_01e6f501e6f500_01e6ff01e6ff00]
  lost := []

/-- Changes among the combining marks; three of them come from a version newer still. -/
def mark : Amendment where
  gained := [
    0x0005c80005c800_000b53000b5400_001acf001add00_001ae0001aeb00_010efa010efb00_011b60011b6700,
    0x01e6e301e6e300_01e6e601e6e600_01e6ee01e6ef00_01e6f501e6f500]
  lost := []

end Amendment

end CorpusSearch.Unicode.Table
