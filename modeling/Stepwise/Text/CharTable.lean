/-!
# Character data

The general category of every code point, and the case mappings, as the Unicode Character
Database (version 14) states them. The tables are kept as short texts in a run-length form;
`Stepwise.Text.Chars` decodes them once and answers questions about single characters.
-/

namespace Stepwise.Text.CharTable

/-- Runs of code points from zero upward: the letter of a general category (`A` is `Lu`, in the
order of `Category`), then how many code points in a row have it. -/
def categoryRuns : String :=
  "Z32W1R3T1R3N1O1R1S1R1M1R2I10R2S3R2A26N1R1O1U1L1U1B26N1S1O1S1Z33W1R1T4V1R1U1V1E1P1S1a1V1U1V1S" ++
  "1K2U1B1R2U1K1E1Q1K3R1A23S1A7B24S1B8A1B1A1B1A1B1A1B1A1B1A1B1A1B1A1B1A1B1A1B1A1B1A1B1A1B1A1B1A" ++
  "1B1A1B1A1B1A1B1A1B1A1B1A1B1A1B1A1B1A1B1A1B1A1B1A1B1A1B2A1B1A1B1A1B1A1B1A1B1A1B1A1B1A1B2A1B1A" ++
  "1B1A1B1A1B1A1B1A1B1A1B1A1B1A1B1A1B1A1B1A1B1A1B1A1B1A1B1A1B1A1B1A1B1A1B1A1B1A1B1A1B1A1B1A2B1A" ++
  "1B1A1B3A2B1A1B1A2B1A3B2A4B1A2B1A3B3A2B1A2B1A1B1A1B1A2B1A1B2A1B1A2B1A3B1A1B1A2B2E1A1B3E4A1C1B" ++
  "1A1C1B1A1C1B1A1B1A1B1A1B1A1B1A1B1A1B1A1B1A1B2A1B1A1B1A1B1A1B1A1B1A1B1A1B1A1B1A1B2A1C1B1A1B1A" ++
  "3B1A1B1A1B1A1B1A1B1A1B1A1B1A1B1A1B1A1B1A1B1A1B1A1B1A1B1A1B1A1B1A1B1A1B1A1B1A1B1A1B1A1B1A1B1A" ++
  "1B1A1B1A1B1A1B1A1B1A1B1A1B7A2B1A2B2A1B1A4B1A1B1A1B1A1B1A1B69E1B27D18U4D12U14D5U7D1U1D1U17F11" ++
  "2A1B1A1B1D1U1A1B1d2D1B3R1A1d4U2A1R1A3d1A1d1A2B1A17d1A9B35A1B2A3B3A1B1A1B1A1B1A1B1A1B1A1B1A1B" ++
  "1A1B1A1B1A1B1A1B1A1B5A1B1S1A1B1A2B2A51B48A1B1A1B1A1B1A1B1A1B1A1B1A1B1A1B1A1B1A1B1A1B1A1B1A1B" ++
  "1A1B1A1B1A1B1A1B1V1F5H2A1B1A1B1A1B1A1B1A1B1A1B1A1B1A1B1A1B1A1B1A1B1A1B1A1B1A1B1A1B1A1B1A1B1A" ++
  "1B1A1B1A1B1A1B1A1B1A1B1A1B1A1B1A1B1A1B1A2B1A1B1A1B1A1B1A1B1A1B1A1B2A1B1A1B1A1B1A1B1A1B1A1B1A" ++
  "1B1A1B1A1B1A1B1A1B1A1B1A1B1A1B1A1B1A1B1A1B1A1B1A1B1A1B1A1B1A1B1A1B1A1B1A1B1A1B1A1B1A1B1A1B1A" ++
  "1B1A1B1A1B1A1B1A1B1A1B1A1B1A1B1A1B1A1B1A1B1A1B1A1B1A1B1A1B1A1B1A1B1A1B1A1B1d1A38d2D1R6B41R1M" ++
  "1d2V2T1d1F45M1F1R1F2R1F2R1F1d8E27d4E4R2d11a6S3R2T1R2V2F11R1a1R3E32D1E10F21I10R4E2F1E99R1E1F7" ++
  "a1V1F6D2F2V1F4E2I10E3V2E1R14d1a1E1F1E30F27d2E89F11E1d14I10E33F9D2V1R3D1d2F1T2E22F4D1F9D1F3D1" ++
  "F5d2R15d1E25F3d2R1d1E11d5E24U1E6d1a2d6F8E41D1F24a1F32G1E54F1G1F1E1G3F8G4F1G2E1F7E10F2R2I10R1" ++
  "D1E15F1G2d1E8d2E2d2E22d1E7d1E1d3E4d2F1E1G3F4d2G2d2G2F1E1d8G1d4E2d1E3F2d2I10E2T2K6V1T1E1R1F1d" ++
  "2F2G1d1E6d4E2d2E22d1E7d1E2d1E2d1E2d2F1d1G3F2d4F2d2F3d3F1d7E4d1E1d7I10F2E3F1R1d10F2G1d1E9d1E3" ++
  "d1E22d1E7d1E2d1E5d2F1E1G3F5d1F2G1d1G2F1d2E1d15E2F2d2I10R1T1d7E1F6d1F1G2d1E8d2E2d2E22d1E7d1E2" ++
  "d1E5d2F1E1G1F1G1F4d2G2d2G2F1d7F2G1d4E2d1E3F2d2I10V1E1K6d10F1E1d1E6d3E3d1E4d3E2d1E1d1E2d3E2d3" ++
  "E3d3E12d4G2F1G2d3G3d1G3F1d2E1d6G1d14I10K3V6T1V1d5F1G3F1E8d1E3d1E23d1E16d2F1E1F3G4d1F3d1F4d7F" ++
  "2d1E3d2E1d2E2F2d2I10d7R1K7V1E1F1G2R1E8d1E3d1E23d1E10d1E5d2F1E1G1F1G5d1F1G2d1G2F2d7G2d6E2d1E2" ++
  "F2d2I10d1E2d13F2G2E9d1E3d1E41F2E1G3F4d1G3d1G3F1E1V1d4E3G1K7E3F2d2I10K9V1E6d1F1G2d1E18d3E24d1" ++
  "E9d1E1d2E7d3F1d4G3F3d1F1d1G8d6I10d2G2R1d12E48F1E2F7d4T1E6D1F8R1I10R2d37E2d1E1d1E5d1E24d1E1d1" ++
  "E10F1E2F9E1d2E5d1D1d1F6d2I10d2E4d32E1V3R15V1R1V3F2V6I10K10V1F1V1F1V1F1N1O1N1O1G2E8d1E36d4F14" ++
  "G1F5R1F2E5F11d1F36d1V8F1V6d1V2R5V4R2d37E43G2F4G1F6G1F2G2F2E1I10R6E6G2F2E4F3E1G3E2G7E3F4E13F1" ++
  "G2F2G6F1E1G1I10G3F1V2A38d1A1d5A1d2B43R1D1B3E329d1E4d2E7d1E1d1E4d2E41d1E4d2E33d1E4d2E7d1E1d1E" ++
  "4d2E15d1E57d1E4d2E67d2F3R9K20d3E16V10d6A86d2B6d2M1E620V1R1E17W1E26N1O1d3E75R3J3E8d7E18F3G1d9" ++
  "E19F2G1R2d9E18F2d12E13d1E3d1F2d12E52F2G1F7G8F1G2F11R3D1R3T1E1F1d2I10d6K10d6R6M1R4F3a1F1I10d6" ++
  "E35D1E53d7E5F2E34F1E1d5E70d10E31d1F3G4F2G3d4G2F1G6F3d4V1d3R2I10E30d2E5d11E44d4E26d6I10K1d3V3" ++
  "4E23F2G2F1d2R2E53G1F1G1F7d1F1G1F1G2F8G6F10d2F1I10d6I10d6R7D1R6d2F14H1F16d49F4G1E47F1G1F5G1F1" ++
  "G5F1G2E8d3I10R7V10F9V9R2d1F2G1E30G1F4G2F2G1F3E2I10E44F1G1F2G3F1G1F3G2d8R4E36G8F8G2F2d3R5I10d" ++
  "3E3I10E30D6R2B9d7A43d2A3R8d8F3R1F13G1F7E4F1E6F1E2G1F2E1d5B44D63B13D1B34D37F64A1B1A1B1A1B1A1B" ++
  "1A1B1A1B1A1B1A1B1A1B1A1B1A1B1A1B1A1B1A1B1A1B1A1B1A1B1A1B1A1B1A1B1A1B1A1B1A1B1A1B1A1B1A1B1A1B" ++
  "1A1B1A1B1A1B1A1B1A1B1A1B1A1B1A1B1A1B1A1B1A1B1A1B1A1B1A1B1A1B1A1B1A1B1A1B1A1B1A1B1A1B1A1B1A1B" ++
  "1A1B1A1B1A1B1A1B1A1B1A1B1A1B1A1B1A1B1A1B1A1B1A1B1A1B1A1B1A1B1A1B1A1B1A1B1A1B1A1B1A1B1A1B1A1B" ++
  "1A1B1A1B9A1B1A1B1A1B1A1B1A1B1A1B1A1B1A1B1A1B1A1B1A1B1A1B1A1B1A1B1A1B1A1B1A1B1A1B1A1B1A1B1A1B" ++
  "1A1B1A1B1A1B1A1B1A1B1A1B1A1B1A1B1A1B1A1B1A1B1A1B1A1B1A1B1A1B1A1B1A1B1A1B1A1B1A1B1A1B1A1B1A1B" ++
  "1A1B1A1B1A1B1A1B1A1B9A8B6d2A6d2B8A8B8A8B6d2A6d2B8d1A1d1A1d1A1d1A1B8A8B14d2B8C8B8C8B8C8B5d1B2" ++
  "A4C1U1B1U3B3d1B2A4C1U3B4d2B2A4d1U3B8A5U3d2B3d1B2A4C1U2d1W11a5M6R2P1Q1N1P2Q1N1P1R8X1Y1a5W1R9P" ++
  "1Q1R4L2R3S1N1O1R11S1R1L1R10W1a5d1a10K1D1d2K6S3N1O1D1K10S3N1O1d1D13d3T33d15F13H4F1H3F12d15V2A" ++
  "1V4A1V2B1A3B2A3B1V1A1V2S1A5V6A1V1A1V1A1V1A4V1B1A4B1E4B1V2B2A2S5A1B4V1S1V2B1V1K16J35A1B1J4K1V" ++
  "2d4S5V5S2V4S1V2S1V2S1V7S1V31S2V2S1V1S1V31S268V8N1O1N1O1V20S2V7N1O1V81S1V30S25V40S6V69d25V11d" ++
  "21K60V78K22V183S1V9S1V54S8V111S1V248N1O1N1O1N1O1N1O1N1O1N1O1N1O1K30V44S5N1O1S31N1O1N1O1N1O1N" ++
  "1O1N1O1S16V256S131N1O1N1O1N1O1N1O1N1O1N1O1N1O1N1O1N1O1N1O1N1O1S63N1O1N1O1S32N1O1S258V48S21V2" ++
  "S6V39d2V32d1V105A48B48A1B1A3B2A1B1A1B1A1B1A4B1A1B2A1B6D2A3B1A1B1A1B1A1B1A1B1A1B1A1B1A1B1A1B1" ++
  "A1B1A1B1A1B1A1B1A1B1A1B1A1B1A1B1A1B1A1B1A1B1A1B1A1B1A1B1A1B1A1B1A1B1A1B1A1B1A1B1A1B1A1B1A1B1" ++
  "A1B1A1B1A1B1A1B1A1B1A1B1A1B1A1B1A1B1A1B1A1B1A1B1A1B1A1B1A1B1A1B1A1B1A1B2V6A1B1A1B1F3A1B1d5R4" ++
  "K1R2B38d1B1d5B1d2E56d7D1R1d14F1E23d9E7d1E7d1E7d1E7d1E7d1E7d1E7d1E7d1F32R2P1Q1P1Q1R3P1Q1R1P1Q" ++
  "1R9M1R2M1R1P1Q1R2P1Q1N1O1N1O1N1O1N1O1R5D1R10M2R4M1R1N1R13V2R3N1O1N1O1N1O1N1O1M1d34V26d1V89d1" ++
  "2V214d26V12d4W1R3V1D1E1J1N1O1N1O1N1O1N1O1N1O1V2N1O1N1O1N1O1N1O1M1N1O2V1J9F4G2M1D5V2J3D1E1R1V" ++
  "2d1E86d2F2U2D2E1M1E90R1D3E1d5E43d1E94d1V2K4V10E32V36d12E16V31d1K10V30K8V1K15V32K10V39K15V320" ++
  "E6592V64E21013D1E1143d3V55d9E40D6R2E268D1R3E16I10E2d20A1B1A1B1A1B1A1B1A1B1A1B1A1B1A1B1A1B1A1" ++
  "B1A1B1A1B1A1B1A1B1A1B1A1B1A1B1A1B1A1B1A1B1A1B1A1B1A1B1E1F1H3R1F10R1D1A1B1A1B1A1B1A1B1A1B1A1B" ++
  "1A1B1A1B1A1B1A1B1A1B1A1B1A1B1A1B1D2F2E70J10F2R6d8U23D9U2A1B1A1B1A1B1A1B1A1B1A1B1A1B3A1B1A1B1" ++
  "A1B1A1B1A1B1A1B1A1B1A1B1A1B1A1B1A1B1A1B1A1B1A1B1A1B1A1B1A1B1A1B1A1B1A1B1A1B1A1B1A1B1A1B1A1B1" ++
  "A1B1A1B1A1B1A1B1A1B1A1B1D1B8A1B1A1B1A2B1A1B1A1B1A1B1A1B1D1U2A1B1A1B1E1A1B1A1B3A1B1A1B1A1B1A1" ++
  "B1A1B1A1B1A1B1A1B1A1B1A1B1A5B1A5B1A1B1A1B1A1B1A1B1A1B1A1B1A1B1A4B1A1B1d5A1B1d1B1d1B1A1B1A1B1" ++
  "d24D3A1B1E1D2B1E7F1E3F1E4F1E23G2F2G1V4F1d3K6V2T1V1d6E52R4d8G2E50G16F2d8R2I10d6F18E6R3E1R1E2F" ++
  "1I10E28F8R2E23F11G2d11R1E29d3F3G1E47F1G2F4G2F2G3R13d1D1I10d4R2E5F1D1E9I10E5d1E41F6G2F2G2F2d9" ++
  "E3F1E8F1G1d2I10d2R4E16D1E6V3E1G1F1G1E50F1E1F3E2F2E5F2E1F1E1d24E2D1R2E11G1F2G2R2E1D2G1F1d10E6" ++
  "d2E6d2E6d9E7d1E7d1B43U1D4B9D1U2d4B80E35G2F1G2F1G2R1G1F1d2I10d6E11172d12E23d4E49d4b2048c6400E" ++
  "366d2E106d38B7d12B5d5E1F1E10S1E13d1E5d1E1d1E2d1E2d1E108U17d16E363O1N1V16E64d2E54d7V1d32E12T1" ++
  "V3F16R7N1O1R1d6F16R1M2L2N1O1N1O1N1O1N1O1N1O1N1O1N1O1N1O1R2N1O1R4L3R3d1R4M1N1O1N1O1N1O1R3S1M1" ++
  "S3d1R1T1R2d4E5d1E135d2a1d1R3T1R3N1O1R1S1R1M1R2I10R2S3R2A26N1R1O1U1L1U1B26N1S1O1S1N1O1R1N1O1R" ++
  "2E10D1E45D2E31d3E6d2E6d2E6d2E3d3T2S1U1V1T2d1V1S4V2d10a3V2d2E12d1E26d1E19d1E2d1E15d2E14d34E12" ++
  "3d5R3d4K45d3V9J53K4V17K2V3d1V13d3V1d47V45F1d130E29d3E49d15F1K27d4E32K4d9E20J1E8J1d5E38F5d5E3" ++
  "0d1R1E36d4E8R1J5d42A40B40E78d2I10d6A36d4B36d4E40d8E52d11R1A11d1A15d1A7d1A2d1B11d1B15d1B7d1B2" ++
  "d67E311d9E22d10E8d24D6d1D42d1D9d69E6d2E1d1E44d1E2d3E1d2E23d1R1K8E23V2K7E31d8K9d48E19d1E2d5K5" ++
  "E22K6d3R1E26d5R1d64E56d4K2E2K16d2K46E1F3d1F2d5F4E4d1E3d1E29d2F3d4F1K9d7R9d7E29K2R1E29K3d32E8" ++
  "V1E28F2d4K5R7d9E54d3R7E22d2K8E19d5K8E18d7R4d12K7d80E73d55A51d13B51d7K6E36F4d8I10d294K31d1E42" ++
  "d1F2M1d2E2d78E29K10E1d8E22F11K4R5d22E18F4R4d38E21K7d20E23d9G1F1G1E53F15R7d4K20I10F1E2F2E1d9F" ++
  "3G1E45G3F4G2F2R2a1R4F1d10a1d2E25d7I10d6F3E36F5G1F8d1I10R4E1G2E1d8E35F1R2E1d9F2G1E48G3F9G2E4R" ++
  "4F4R1G1F1I10E1R1E1R3d1K20d11E18d1E25G3F3G2F1G1F2R6F1d65E7d1E1d1E4d1E15d1E10R1d6E47F1G3F8d5I1" ++
  "0d6F2G2d1E8d2E2d2E22d1E7d1E2d1E5d1F2E1G2F1G4d2G2d2G3d2E1d6G1d5E5G2d2F7d3F5d139E53G3F8G2F3G1F" ++
  "1E4R5I10R2d1R1F1E3d30E48G3F6G1F1G4F2G1F2E2R1E1d8I10d166E47G3F4d2G4F2G1F2R23E4F2d34E48G3F8G2F" ++
  "1G1F2R3E1d11I10d6R13d19E43F1G1F1G2F6G1F1E1R1d6I10d54E27d2F3G2F4G1F5d4I10K2R3V1E7d185E44G3F9G" ++
  "1F2R1d100A32B32I10K9d12E8d2E1d2E8d1E2d1E24G6d1G2d2F2G1F1E1G1E1G1F1R3d9I10d70E8d2E39G3F4d2F2G" ++
  "4F1E1R1E1G1d27E1F10E40F6G1E1F4R8F1d8E1F6G2F3E46F13G1F2R3E1R5d13E73d263E9d1E37G1F7d1F6G1F1E1R" ++
  "5d10I10K19d3R2E30d2F22d1G1F7G1F2G1F2d73E7d1E2d1E38F6d3F1d1F2d1F7E1F1d8I10d6E6d1E2d1E32G5d1F2" ++
  "d1G2F1G1F1E1d7I10d310E19F2G2R2d183E1d15K21V8T4V17d13R1E922d102J111d1R5d11E196d2636E97R2d13E1" ++
  "071d1a9d4039E583d8633E569d7E31d1I10d4R2E79d1I10d6E30d2F5R1d10E48F7R5V4D4R1V1d10I10d1K7d1E21d" ++
  "5E19d688A32B32K23R4d101E75d4F1E1G55d7F4D13d64D2R1D1F1d11G2d14E6136d8E1238d42E9d8935D4d1D7d1D" ++
  "2d1E291d45E3d17E4d8E396d2308E107d5E13d3E9d7E10d2V1F2R1a4d4700F46d2F23d9V116d60V246d10V39d2V6" ++
  "0G2F3V3G6a8F8V2F7V30F4V61d21V66F3V1d154K20d12V87d9K25d135A26B26A26B7d1B18A26B26A1d1A2d2A1d2A" ++
  "2d2A4d1A8B4d1B1d1B7d1B11A26B26A2d1A4d2A8d1A7d1B26A2d1A4d1A5d1A1d3A7d1B26A26B26A26B26A26B26A2" ++
  "6B26A26B26A26B28d2A25S1B25S1B6A25S1B25S1B6A25S1B25S1B6A25S1B25S1B6A25S1B25S1B6A1B1d2I50V512F" ++
  "55V4F50V8F1V14F1V2R5d15F5d1F15d1104B10E1B20d225F7d1F17d2F7d1F2d1F5d213E45d3F7D7d2I10d4E1V1d3" ++
  "20E30F1d17E44F4I10d5T1d1248E7d1E4d1E2d1E15d1E197d2K9F7d41A34B34F7D1d4I10d4R2d785K59V1K3T1K4d" ++
  "76K45V1K15d194E4d1E27d1E2d1E1d2E1d1E10d1E4d1E1d1E1d6E1d4E1d1E1d1E1d1E3d1E2d1E1d2E1d1E1d1E1d1" ++
  "E1d1E1d1E2d1E1d2E4d1E7d1E4d1E4d1E1d1E10d1E17d5E3d1E5d1E17d52S2d270V44d4V100d12V15d2V15d1V15d" ++
  "1V37d10K13V161d56V29d13V44d4V9d7V2d14V6d154V251U5V728d5V16d3V13d3V116d12V89d7V12d4V1d15V12d4" ++
  "V56d8V10d6V40d8V30d2V2d78V340d12V14d2V5d3V5d3V7d9V29d3V11d5V6d10V10d6V8d8V7d9V147d1V55d37I10" ++
  "d1030E42720d32E4153d7E222d2E5762d14E7473d3103E542d1506E4939d715958a1d30a96d128F240d65040c655" ++
  "34d2c65534d2"

/-- Ranges of characters that stand for a digit but do not form decimal numbers. -/
def extraDigits : String :=
  "b2-b3 b9 1369-1371 19da 2070 2074-2079 2080-2089 2460-2468 2474-247c 2488-2490 24ea 24f5-24f" ++
  "d 24ff 2776-277e 2780-2788 278a-2792 10a40-10a43 10e60-10e68 11052-1105a 1f100-1f10a"

/-- Ranges of ideographs that stand for a number. -/
def extraNumerals : String :=
  "3405 3483 382a 3b4d 4e00 4e03 4e07 4e09 4e5d 4e8c 4e94 4e96 4ebf-4ec0 4edf 4ee8 4f0d 4f70 51" ++
  "04 5146 5169 516b 516d 5341 5343-5345 534c 53c1-53c4 56db 58f1 58f9 5e7a 5efe-5eff 5f0c-5f0e" ++
  " 5f10 62fe 634c 67d2 6f06 7396 767e 8086 842c 8cae 8cb3 8d30 9621 9646 964c 9678 96f6 f96b f" ++
  "973 f978 f9b2 f9d1 f9d3 f9fd 20001 20064 200e2 20121 2092a 20983 2098c 2099c 20aea 20afd 20b" ++
  "19 22390 22998 23b1b 2626d 2f890"

/-- Ranges of lower-case characters outside the category `Ll`. -/
def extraLower : String :=
  "aa ba 2b0-2b8 2c0-2c1 2e0-2e4 345 37a 1d2c-1d6a 1d78 1d9b-1dbf 2071 207f 2090-209c 2170-217f" ++
  " 24d0-24e9 2c7c-2c7d a69c-a69d a770 a7f8-a7f9 ab5c-ab5f 10780 10783-10785 10787-107b0 107b2-" ++
  "107ba"

/-- Ranges of upper-case characters outside the category `Lu`. -/
def extraUpper : String :=
  "2160-216f 24b6-24cf 1f130-1f149 1f150-1f169 1f170-1f189"

/-- Ranges that may start a name though their category does not say so. -/
def extraNameStart : String :=
  "5f 1885-1886 2118 212e"

/-- Ranges that may not start a name though their category says so. -/
def excludedNameStart : String :=
  "37a e33 eb3 2e2f fc5e-fc63 fdfa-fdfb fe70 fe72 fe74 fe76 fe78 fe7a fe7c fe7e ff9e-ff9f"

/-- Ranges that may continue a name though their category does not say so. -/
def extraNamePart : String :=
  "b7 387 1369-1371 19da 2118 212e"

/-- Ranges that may not continue a name though their category says so. -/
def excludedNamePart : String :=
  "37a 2e2f fc5e-fc63 fdfa-fdfb fe70 fe72 fe74 fe76 fe78 fe7a fe7c fe7e"

/-- Runs with one upper-case character each: first code point, step, count, distance to the image. -/
def upperRuns : String :=
  "61,1,26,-32 b5,1,1,743 e0,1,23,-32 f8,1,7,-32 ff,1,1,121 101,2,24,-1 131,1,1,-232 133,2,3,-1" ++
  " 13a,2,8,-1 14b,2,23,-1 17a,2,3,-1 17f,1,1,-300 180,1,1,195 183,2,2,-1 188,1,1,-1 18c,1,1,-1" ++
  " 192,1,1,-1 195,1,1,97 199,1,1,-1 19a,1,1,163 19e,1,1,130 1a1,2,3,-1 1a8,1,1,-1 1ad,1,1,-1 1" ++
  "b0,1,1,-1 1b4,2,2,-1 1b9,1,1,-1 1bd,1,1,-1 1bf,1,1,56 1c5,1,1,-1 1c6,1,1,-2 1c8,1,1,-1 1c9,1" ++
  ",1,-2 1cb,1,1,-1 1cc,1,1,-2 1ce,2,8,-1 1dd,1,1,-79 1df,2,9,-1 1f2,1,1,-1 1f3,1,1,-2 1f5,1,1," ++
  "-1 1f9,2,20,-1 223,2,9,-1 23c,1,1,-1 23f,1,2,10815 242,1,1,-1 247,2,5,-1 250,1,1,10783 251,1" ++
  ",1,10780 252,1,1,10782 253,1,1,-210 254,1,1,-206 256,1,2,-205 259,1,1,-202 25b,1,1,-203 25c," ++
  "1,1,42319 260,1,1,-205 261,1,1,42315 263,1,1,-207 265,1,1,42280 266,1,1,42308 268,1,1,-209 2" ++
  "69,1,1,-211 26a,1,1,42308 26b,1,1,10743 26c,1,1,42305 26f,1,1,-211 271,1,1,10749 272,1,1,-21" ++
  "3 275,1,1,-214 27d,1,1,10727 280,1,1,-218 282,1,1,42307 283,1,1,-218 287,1,1,42282 288,1,1,-" ++
  "218 289,1,1,-69 28a,1,2,-217 28c,1,1,-71 292,1,1,-219 29d,1,1,42261 29e,1,1,42258 345,1,1,84" ++
  " 371,2,2,-1 377,1,1,-1 37b,1,3,130 3ac,1,1,-38 3ad,1,3,-37 3b1,1,17,-32 3c2,1,1,-31 3c3,1,9," ++
  "-32 3cc,1,1,-64 3cd,1,2,-63 3d0,1,1,-62 3d1,1,1,-57 3d5,1,1,-47 3d6,1,1,-54 3d7,1,1,-8 3d9,2" ++
  ",12,-1 3f0,1,1,-86 3f1,1,1,-80 3f2,1,1,7 3f3,1,1,-116 3f5,1,1,-96 3f8,1,1,-1 3fb,1,1,-1 430," ++
  "1,32,-32 450,1,16,-80 461,2,17,-1 48b,2,27,-1 4c2,2,7,-1 4cf,1,1,-15 4d1,2,48,-1 561,1,38,-4" ++
  "8 10d0,1,43,3008 10fd,1,3,3008 13f8,1,6,-8 1c80,1,1,-6254 1c81,1,1,-6253 1c82,1,1,-6244 1c83" ++
  ",1,2,-6242 1c85,1,1,-6243 1c86,1,1,-6236 1c87,1,1,-6181 1c88,1,1,35266 1d79,1,1,35332 1d7d,1" ++
  ",1,3814 1d8e,1,1,35384 1e01,2,75,-1 1e9b,1,1,-59 1ea1,2,48,-1 1f00,1,8,8 1f10,1,6,8 1f20,1,8" ++
  ",8 1f30,1,8,8 1f40,1,6,8 1f51,2,4,8 1f60,1,8,8 1f70,1,2,74 1f72,1,4,86 1f76,1,2,100 1f78,1,2" ++
  ",128 1f7a,1,2,112 1f7c,1,2,126 1fb0,1,2,8 1fbe,1,1,-7205 1fd0,1,2,8 1fe0,1,2,8 1fe5,1,1,7 21" ++
  "4e,1,1,-28 2170,1,16,-16 2184,1,1,-1 24d0,1,26,-26 2c30,1,48,-48 2c61,1,1,-1 2c65,1,1,-10795" ++
  " 2c66,1,1,-10792 2c68,2,3,-1 2c73,1,1,-1 2c76,1,1,-1 2c81,2,50,-1 2cec,2,2,-1 2cf3,1,1,-1 2d" ++
  "00,1,38,-7264 2d27,1,1,-7264 2d2d,1,1,-7264 a641,2,23,-1 a681,2,14,-1 a723,2,7,-1 a733,2,31," ++
  "-1 a77a,2,2,-1 a77f,2,5,-1 a78c,1,1,-1 a791,2,2,-1 a794,1,1,48 a797,2,10,-1 a7b5,2,8,-1 a7c8" ++
  ",2,2,-1 a7d1,1,1,-1 a7d7,2,2,-1 a7f6,1,1,-1 ab53,1,1,-928 ab70,1,80,-38864 ff41,1,26,-32 104" ++
  "28,1,40,-40 104d8,1,36,-40 10597,1,11,-39 105a3,1,15,-39 105b3,1,7,-39 105bb,1,2,-39 10cc0,1" ++
  ",51,-64 118c0,1,32,-32 16e60,1,32,-32 1e922,1,34,-34"

/-- Characters whose upper-case form has several characters. -/
def upperWords : String :=
  "df:53+53 149:2bc+4e 1f0:4a+30c 390:399+308+301 3b0:3a5+308+301 587:535+552 1e96:48+331 1e97:" ++
  "54+308 1e98:57+30a 1e99:59+30a 1e9a:41+2be 1f50:3a5+313 1f52:3a5+313+300 1f54:3a5+313+301 1f" ++
  "56:3a5+313+342 1f80:1f08+399 1f81:1f09+399 1f82:1f0a+399 1f83:1f0b+399 1f84:1f0c+399 1f85:1f" ++
  "0d+399 1f86:1f0e+399 1f87:1f0f+399 1f88:1f08+399 1f89:1f09+399 1f8a:1f0a+399 1f8b:1f0b+399 1" ++
  "f8c:1f0c+399 1f8d:1f0d+399 1f8e:1f0e+399 1f8f:1f0f+399 1f90:1f28+399 1f91:1f29+399 1f92:1f2a" ++
  "+399 1f93:1f2b+399 1f94:1f2c+399 1f95:1f2d+399 1f96:1f2e+399 1f97:1f2f+399 1f98:1f28+399 1f9" ++
  "9:1f29+399 1f9a:1f2a+399 1f9b:1f2b+399 1f9c:1f2c+399 1f9d:1f2d+399 1f9e:1f2e+399 1f9f:1f2f+3" ++
  "99 1fa0:1f68+399 1fa1:1f69+399 1fa2:1f6a+399 1fa3:1f6b+399 1fa4:1f6c+399 1fa5:1f6d+399 1fa6:" ++
  "1f6e+399 1fa7:1f6f+399 1fa8:1f68+399 1fa9:1f69+399 1faa:1f6a+399 1fab:1f6b+399 1fac:1f6c+399" ++
  " 1fad:1f6d+399 1fae:1f6e+399 1faf:1f6f+399 1fb2:1fba+399 1fb3:391+399 1fb4:386+399 1fb6:391+" ++
  "342 1fb7:391+342+399 1fbc:391+399 1fc2:1fca+399 1fc3:397+399 1fc4:389+399 1fc6:397+342 1fc7:" ++
  "397+342+399 1fcc:397+399 1fd2:399+308+300 1fd3:399+308+301 1fd6:399+342 1fd7:399+308+342 1fe" ++
  "2:3a5+308+300 1fe3:3a5+308+301 1fe4:3a1+313 1fe6:3a5+342 1fe7:3a5+308+342 1ff2:1ffa+399 1ff3" ++
  ":3a9+399 1ff4:38f+399 1ff6:3a9+342 1ff7:3a9+342+399 1ffc:3a9+399 fb00:46+46 fb01:46+49 fb02:" ++
  "46+4c fb03:46+46+49 fb04:46+46+4c fb05:53+54 fb06:53+54 fb13:544+546 fb14:544+535 fb15:544+5" ++
  "3b fb16:54e+546 fb17:544+53d"

/-- Runs with one lower-case character each: first code point, step, count, distance to the image. -/
def lowerRuns : String :=
  "41,1,26,32 c0,1,23,32 d8,1,7,32 100,2,24,1 132,2,3,1 139,2,8,1 14a,2,23,1 178,1,1,-121 179,2" ++
  ",3,1 181,1,1,210 182,2,2,1 186,1,1,206 187,1,1,1 189,1,2,205 18b,1,1,1 18e,1,1,79 18f,1,1,20" ++
  "2 190,1,1,203 191,1,1,1 193,1,1,205 194,1,1,207 196,1,1,211 197,1,1,209 198,1,1,1 19c,1,1,21" ++
  "1 19d,1,1,213 19f,1,1,214 1a0,2,3,1 1a6,1,1,218 1a7,1,1,1 1a9,1,1,218 1ac,1,1,1 1ae,1,1,218 " ++
  "1af,1,1,1 1b1,1,2,217 1b3,2,2,1 1b7,1,1,219 1b8,1,1,1 1bc,1,1,1 1c4,1,1,2 1c5,1,1,1 1c7,1,1," ++
  "2 1c8,1,1,1 1ca,1,1,2 1cb,2,9,1 1de,2,9,1 1f1,1,1,2 1f2,2,2,1 1f6,1,1,-97 1f7,1,1,-56 1f8,2," ++
  "20,1 220,1,1,-130 222,2,9,1 23a,1,1,10795 23b,1,1,1 23d,1,1,-163 23e,1,1,10792 241,1,1,1 243" ++
  ",1,1,-195 244,1,1,69 245,1,1,71 246,2,5,1 370,2,2,1 376,1,1,1 37f,1,1,116 386,1,1,38 388,1,3" ++
  ",37 38c,1,1,64 38e,1,2,63 391,1,17,32 3a3,1,9,32 3cf,1,1,8 3d8,2,12,1 3f4,1,1,-60 3f7,1,1,1 " ++
  "3f9,1,1,-7 3fa,1,1,1 3fd,1,3,-130 400,1,16,80 410,1,32,32 460,2,17,1 48a,2,27,1 4c0,1,1,15 4" ++
  "c1,2,7,1 4d0,2,48,1 531,1,38,48 10a0,1,38,7264 10c7,1,1,7264 10cd,1,1,7264 13a0,1,80,38864 1" ++
  "3f0,1,6,8 1c90,1,43,-3008 1cbd,1,3,-3008 1e00,2,75,1 1e9e,1,1,-7615 1ea0,2,48,1 1f08,1,8,-8 " ++
  "1f18,1,6,-8 1f28,1,8,-8 1f38,1,8,-8 1f48,1,6,-8 1f59,2,4,-8 1f68,1,8,-8 1f88,1,8,-8 1f98,1,8" ++
  ",-8 1fa8,1,8,-8 1fb8,1,2,-8 1fba,1,2,-74 1fbc,1,1,-9 1fc8,1,4,-86 1fcc,1,1,-9 1fd8,1,2,-8 1f" ++
  "da,1,2,-100 1fe8,1,2,-8 1fea,1,2,-112 1fec,1,1,-7 1ff8,1,2,-128 1ffa,1,2,-126 1ffc,1,1,-9 21" ++
  "26,1,1,-7517 212a,1,1,-8383 212b,1,1,-8262 2132,1,1,28 2160,1,16,16 2183,1,1,1 24b6,1,26,26 " ++
  "2c00,1,48,48 2c60,1,1,1 2c62,1,1,-10743 2c63,1,1,-3814 2c64,1,1,-10727 2c67,2,3,1 2c6d,1,1,-" ++
  "10780 2c6e,1,1,-10749 2c6f,1,1,-10783 2c70,1,1,-10782 2c72,1,1,1 2c75,1,1,1 2c7e,1,2,-10815 " ++
  "2c80,2,50,1 2ceb,2,2,1 2cf2,1,1,1 a640,2,23,1 a680,2,14,1 a722,2,7,1 a732,2,31,1 a779,2,2,1 " ++
  "a77d,1,1,-35332 a77e,2,5,1 a78b,1,1,1 a78d,1,1,-42280 a790,2,2,1 a796,2,10,1 a7aa,1,1,-42308" ++
  " a7ab,1,1,-42319 a7ac,1,1,-42315 a7ad,1,1,-42305 a7ae,1,1,-42308 a7b0,1,1,-42258 a7b1,1,1,-4" ++
  "2282 a7b2,1,1,-42261 a7b3,1,1,928 a7b4,2,8,1 a7c4,1,1,-48 a7c5,1,1,-42307 a7c6,1,1,-35384 a7" ++
  "c7,2,2,1 a7d0,1,1,1 a7d6,2,2,1 a7f5,1,1,1 ff21,1,26,32 10400,1,40,40 104b0,1,36,40 10570,1,1" ++
  "1,39 1057c,1,15,39 1058c,1,7,39 10594,1,2,39 10c80,1,51,64 118a0,1,32,32 16e40,1,32,32 1e900" ++
  ",1,34,34"

/-- Characters whose lower-case form has several characters. -/
def lowerWords : String :=
  "130:69+307"

/-- Runs with one title-case character each: first code point, step, count, distance to the image. -/
def titleRuns : String :=
  "61,1,26,-32 b5,1,1,743 e0,1,23,-32 f8,1,7,-32 ff,1,1,121 101,2,24,-1 131,1,1,-232 133,2,3,-1" ++
  " 13a,2,8,-1 14b,2,23,-1 17a,2,3,-1 17f,1,1,-300 180,1,1,195 183,2,2,-1 188,1,1,-1 18c,1,1,-1" ++
  " 192,1,1,-1 195,1,1,97 199,1,1,-1 19a,1,1,163 19e,1,1,130 1a1,2,3,-1 1a8,1,1,-1 1ad,1,1,-1 1" ++
  "b0,1,1,-1 1b4,2,2,-1 1b9,1,1,-1 1bd,1,1,-1 1bf,1,1,56 1c4,1,1,1 1c6,1,1,-1 1c7,1,1,1 1c9,1,1" ++
  ",-1 1ca,1,1,1 1cc,2,9,-1 1dd,1,1,-79 1df,2,9,-1 1f1,1,1,1 1f3,2,2,-1 1f9,2,20,-1 223,2,9,-1 " ++
  "23c,1,1,-1 23f,1,2,10815 242,1,1,-1 247,2,5,-1 250,1,1,10783 251,1,1,10780 252,1,1,10782 253" ++
  ",1,1,-210 254,1,1,-206 256,1,2,-205 259,1,1,-202 25b,1,1,-203 25c,1,1,42319 260,1,1,-205 261" ++
  ",1,1,42315 263,1,1,-207 265,1,1,42280 266,1,1,42308 268,1,1,-209 269,1,1,-211 26a,1,1,42308 " ++
  "26b,1,1,10743 26c,1,1,42305 26f,1,1,-211 271,1,1,10749 272,1,1,-213 275,1,1,-214 27d,1,1,107" ++
  "27 280,1,1,-218 282,1,1,42307 283,1,1,-218 287,1,1,42282 288,1,1,-218 289,1,1,-69 28a,1,2,-2" ++
  "17 28c,1,1,-71 292,1,1,-219 29d,1,1,42261 29e,1,1,42258 345,1,1,84 371,2,2,-1 377,1,1,-1 37b" ++
  ",1,3,130 3ac,1,1,-38 3ad,1,3,-37 3b1,1,17,-32 3c2,1,1,-31 3c3,1,9,-32 3cc,1,1,-64 3cd,1,2,-6" ++
  "3 3d0,1,1,-62 3d1,1,1,-57 3d5,1,1,-47 3d6,1,1,-54 3d7,1,1,-8 3d9,2,12,-1 3f0,1,1,-86 3f1,1,1" ++
  ",-80 3f2,1,1,7 3f3,1,1,-116 3f5,1,1,-96 3f8,1,1,-1 3fb,1,1,-1 430,1,32,-32 450,1,16,-80 461," ++
  "2,17,-1 48b,2,27,-1 4c2,2,7,-1 4cf,1,1,-15 4d1,2,48,-1 561,1,38,-48 13f8,1,6,-8 1c80,1,1,-62" ++
  "54 1c81,1,1,-6253 1c82,1,1,-6244 1c83,1,2,-6242 1c85,1,1,-6243 1c86,1,1,-6236 1c87,1,1,-6181" ++
  " 1c88,1,1,35266 1d79,1,1,35332 1d7d,1,1,3814 1d8e,1,1,35384 1e01,2,75,-1 1e9b,1,1,-59 1ea1,2" ++
  ",48,-1 1f00,1,8,8 1f10,1,6,8 1f20,1,8,8 1f30,1,8,8 1f40,1,6,8 1f51,2,4,8 1f60,1,8,8 1f70,1,2" ++
  ",74 1f72,1,4,86 1f76,1,2,100 1f78,1,2,128 1f7a,1,2,112 1f7c,1,2,126 1f80,1,8,8 1f90,1,8,8 1f" ++
  "a0,1,8,8 1fb0,1,2,8 1fb3,1,1,9 1fbe,1,1,-7205 1fc3,1,1,9 1fd0,1,2,8 1fe0,1,2,8 1fe5,1,1,7 1f" ++
  "f3,1,1,9 214e,1,1,-28 2170,1,16,-16 2184,1,1,-1 24d0,1,26,-26 2c30,1,48,-48 2c61,1,1,-1 2c65" ++
  ",1,1,-10795 2c66,1,1,-10792 2c68,2,3,-1 2c73,1,1,-1 2c76,1,1,-1 2c81,2,50,-1 2cec,2,2,-1 2cf" ++
  "3,1,1,-1 2d00,1,38,-7264 2d27,1,1,-7264 2d2d,1,1,-7264 a641,2,23,-1 a681,2,14,-1 a723,2,7,-1" ++
  " a733,2,31,-1 a77a,2,2,-1 a77f,2,5,-1 a78c,1,1,-1 a791,2,2,-1 a794,1,1,48 a797,2,10,-1 a7b5," ++
  "2,8,-1 a7c8,2,2,-1 a7d1,1,1,-1 a7d7,2,2,-1 a7f6,1,1,-1 ab53,1,1,-928 ab70,1,80,-38864 ff41,1" ++
  ",26,-32 10428,1,40,-40 104d8,1,36,-40 10597,1,11,-39 105a3,1,15,-39 105b3,1,7,-39 105bb,1,2," ++
  "-39 10cc0,1,51,-64 118c0,1,32,-32 16e60,1,32,-32 1e922,1,34,-34"

/-- Characters whose title-case form has several characters. -/
def titleWords : String :=
  "df:53+73 149:2bc+4e 1f0:4a+30c 390:399+308+301 3b0:3a5+308+301 587:535+582 1e96:48+331 1e97:" ++
  "54+308 1e98:57+30a 1e99:59+30a 1e9a:41+2be 1f50:3a5+313 1f52:3a5+313+300 1f54:3a5+313+301 1f" ++
  "56:3a5+313+342 1fb2:1fba+345 1fb4:386+345 1fb6:391+342 1fb7:391+342+345 1fc2:1fca+345 1fc4:3" ++
  "89+345 1fc6:397+342 1fc7:397+342+345 1fd2:399+308+300 1fd3:399+308+301 1fd6:399+342 1fd7:399" ++
  "+308+342 1fe2:3a5+308+300 1fe3:3a5+308+301 1fe4:3a1+313 1fe6:3a5+342 1fe7:3a5+308+342 1ff2:1" ++
  "ffa+345 1ff4:38f+345 1ff6:3a9+342 1ff7:3a9+342+345 fb00:46+66 fb01:46+69 fb02:46+6c fb03:46+" ++
  "66+69 fb04:46+66+6c fb05:53+74 fb06:53+74 fb13:544+576 fb14:544+565 fb15:544+56b fb16:54e+57" ++
  "6 fb17:544+56d"

/-- Runs with one folded-case character each: first code point, step, count, distance to the image. -/
def foldRuns : String :=
  "41,1,26,32 b5,1,1,775 c0,1,23,32 d8,1,7,32 100,2,24,1 132,2,3,1 139,2,8,1 14a,2,23,1 178,1,1" ++
  ",-121 179,2,3,1 17f,1,1,-268 181,1,1,210 182,2,2,1 186,1,1,206 187,1,1,1 189,1,2,205 18b,1,1" ++
  ",1 18e,1,1,79 18f,1,1,202 190,1,1,203 191,1,1,1 193,1,1,205 194,1,1,207 196,1,1,211 197,1,1," ++
  "209 198,1,1,1 19c,1,1,211 19d,1,1,213 19f,1,1,214 1a0,2,3,1 1a6,1,1,218 1a7,1,1,1 1a9,1,1,21" ++
  "8 1ac,1,1,1 1ae,1,1,218 1af,1,1,1 1b1,1,2,217 1b3,2,2,1 1b7,1,1,219 1b8,1,1,1 1bc,1,1,1 1c4," ++
  "1,1,2 1c5,1,1,1 1c7,1,1,2 1c8,1,1,1 1ca,1,1,2 1cb,2,9,1 1de,2,9,1 1f1,1,1,2 1f2,2,2,1 1f6,1," ++
  "1,-97 1f7,1,1,-56 1f8,2,20,1 220,1,1,-130 222,2,9,1 23a,1,1,10795 23b,1,1,1 23d,1,1,-163 23e" ++
  ",1,1,10792 241,1,1,1 243,1,1,-195 244,1,1,69 245,1,1,71 246,2,5,1 345,1,1,116 370,2,2,1 376," ++
  "1,1,1 37f,1,1,116 386,1,1,38 388,1,3,37 38c,1,1,64 38e,1,2,63 391,1,17,32 3a3,1,9,32 3c2,1,1" ++
  ",1 3cf,1,1,8 3d0,1,1,-30 3d1,1,1,-25 3d5,1,1,-15 3d6,1,1,-22 3d8,2,12,1 3f0,1,1,-54 3f1,1,1," ++
  "-48 3f4,1,1,-60 3f5,1,1,-64 3f7,1,1,1 3f9,1,1,-7 3fa,1,1,1 3fd,1,3,-130 400,1,16,80 410,1,32" ++
  ",32 460,2,17,1 48a,2,27,1 4c0,1,1,15 4c1,2,7,1 4d0,2,48,1 531,1,38,48 10a0,1,38,7264 10c7,1," ++
  "1,7264 10cd,1,1,7264 13f8,1,6,-8 1c80,1,1,-6222 1c81,1,1,-6221 1c82,1,1,-6212 1c83,1,2,-6210" ++
  " 1c85,1,1,-6211 1c86,1,1,-6204 1c87,1,1,-6180 1c88,1,1,35267 1c90,1,43,-3008 1cbd,1,3,-3008 " ++
  "1e00,2,75,1 1e9b,1,1,-58 1ea0,2,48,1 1f08,1,8,-8 1f18,1,6,-8 1f28,1,8,-8 1f38,1,8,-8 1f48,1," ++
  "6,-8 1f59,2,4,-8 1f68,1,8,-8 1fb8,1,2,-8 1fba,1,2,-74 1fbe,1,1,-7173 1fc8,1,4,-86 1fd8,1,2,-" ++
  "8 1fda,1,2,-100 1fe8,1,2,-8 1fea,1,2,-112 1fec,1,1,-7 1ff8,1,2,-128 1ffa,1,2,-126 2126,1,1,-" ++
  "7517 212a,1,1,-8383 212b,1,1,-8262 2132,1,1,28 2160,1,16,16 2183,1,1,1 24b6,1,26,26 2c00,1,4" ++
  "8,48 2c60,1,1,1 2c62,1,1,-10743 2c63,1,1,-3814 2c64,1,1,-10727 2c67,2,3,1 2c6d,1,1,-10780 2c" ++
  "6e,1,1,-10749 2c6f,1,1,-10783 2c70,1,1,-10782 2c72,1,1,1 2c75,1,1,1 2c7e,1,2,-10815 2c80,2,5" ++
  "0,1 2ceb,2,2,1 2cf2,1,1,1 a640,2,23,1 a680,2,14,1 a722,2,7,1 a732,2,31,1 a779,2,2,1 a77d,1,1" ++
  ",-35332 a77e,2,5,1 a78b,1,1,1 a78d,1,1,-42280 a790,2,2,1 a796,2,10,1 a7aa,1,1,-42308 a7ab,1," ++
  "1,-42319 a7ac,1,1,-42315 a7ad,1,1,-42305 a7ae,1,1,-42308 a7b0,1,1,-42258 a7b1,1,1,-42282 a7b" ++
  "2,1,1,-42261 a7b3,1,1,928 a7b4,2,8,1 a7c4,1,1,-48 a7c5,1,1,-42307 a7c6,1,1,-35384 a7c7,2,2,1" ++
  " a7d0,1,1,1 a7d6,2,2,1 a7f5,1,1,1 ab70,1,80,-38864 ff21,1,26,32 10400,1,40,40 104b0,1,36,40 " ++
  "10570,1,11,39 1057c,1,15,39 1058c,1,7,39 10594,1,2,39 10c80,1,51,64 118a0,1,32,32 16e40,1,32" ++
  ",32 1e900,1,34,34"

/-- Characters whose folded-case form has several characters. -/
def foldWords : String :=
  "df:73+73 130:69+307 149:2bc+6e 1f0:6a+30c 390:3b9+308+301 3b0:3c5+308+301 587:565+582 1e96:6" ++
  "8+331 1e97:74+308 1e98:77+30a 1e99:79+30a 1e9a:61+2be 1e9e:73+73 1f50:3c5+313 1f52:3c5+313+3" ++
  "00 1f54:3c5+313+301 1f56:3c5+313+342 1f80:1f00+3b9 1f81:1f01+3b9 1f82:1f02+3b9 1f83:1f03+3b9" ++
  " 1f84:1f04+3b9 1f85:1f05+3b9 1f86:1f06+3b9 1f87:1f07+3b9 1f88:1f00+3b9 1f89:1f01+3b9 1f8a:1f" ++
  "02+3b9 1f8b:1f03+3b9 1f8c:1f04+3b9 1f8d:1f05+3b9 1f8e:1f06+3b9 1f8f:1f07+3b9 1f90:1f20+3b9 1" ++
  "f91:1f21+3b9 1f92:1f22+3b9 1f93:1f23+3b9 1f94:1f24+3b9 1f95:1f25+3b9 1f96:1f26+3b9 1f97:1f27" ++
  "+3b9 1f98:1f20+3b9 1f99:1f21+3b9 1f9a:1f22+3b9 1f9b:1f23+3b9 1f9c:1f24+3b9 1f9d:1f25+3b9 1f9" ++
  "e:1f26+3b9 1f9f:1f27+3b9 1fa0:1f60+3b9 1fa1:1f61+3b9 1fa2:1f62+3b9 1fa3:1f63+3b9 1fa4:1f64+3" ++
  "b9 1fa5:1f65+3b9 1fa6:1f66+3b9 1fa7:1f67+3b9 1fa8:1f60+3b9 1fa9:1f61+3b9 1faa:1f62+3b9 1fab:" ++
  "1f63+3b9 1fac:1f64+3b9 1fad:1f65+3b9 1fae:1f66+3b9 1faf:1f67+3b9 1fb2:1f70+3b9 1fb3:3b1+3b9 " ++
  "1fb4:3ac+3b9 1fb6:3b1+342 1fb7:3b1+342+3b9 1fbc:3b1+3b9 1fc2:1f74+3b9 1fc3:3b7+3b9 1fc4:3ae+" ++
  "3b9 1fc6:3b7+342 1fc7:3b7+342+3b9 1fcc:3b7+3b9 1fd2:3b9+308+300 1fd3:3b9+308+301 1fd6:3b9+34" ++
  "2 1fd7:3b9+308+342 1fe2:3c5+308+300 1fe3:3c5+308+301 1fe4:3c1+313 1fe6:3c5+342 1fe7:3c5+308+" ++
  "342 1ff2:1f7c+3b9 1ff3:3c9+3b9 1ff4:3ce+3b9 1ff6:3c9+342 1ff7:3c9+342+3b9 1ffc:3c9+3b9 fb00:" ++
  "66+66 fb01:66+69 fb02:66+6c fb03:66+66+69 fb04:66+66+6c fb05:73+74 fb06:73+74 fb13:574+576 f" ++
  "b14:574+565 fb15:574+56b fb16:57e+576 fb17:574+56d"

end Stepwise.Text.CharTable
