/-
The common words of Brotli.

There are words of 4 to 24 octets, a power of two of each length. They
stand one after the other, the short ones first, and are kept deflated, in
digits of base 64.
-/
import Parley.Compression.Deflate
import Parley.Text.Base64Url

namespace Parley.Compression.Brotli

/-- The logarithms of the numbers of words, from those of four octets on. -/
def wordWidths : List Nat :=
  [10, 10, 11, 11, 10, 10, 10, 10, 10, 9, 9, 8, 7, 7, 8, 7, 7, 6, 6, 5, 5]

/-- The digits of all words. -/
def wordDigits : List String := [
  "eNoclu1u3MYVhn9XgO9hLceWNrZWu5Is2buqjLhWaqeubETroFFgBEPOITnL4QwzM1yKQgTkIvqnt9FL6KUE_byLPowBYS",
  "UveebM-3VOMo1o3ztrCrFSpEzlde61aJVUrHzvnR2iSZKbNPhW3KaLyZpaiiDS-1AnuU2DqOC3EjKvB8svhQ9N5n3dWjVY",
  "sxVrnFRi28o3Eo2WxofxXW29K1MlzdZIXxinW1Vy7hCLztpKlE4SGlF5pYKoIvgmhU4aFWqVWela7ypTVvQpVjntpI-yFe",
  "foJ1dRMp-q1sfURdGN0lLxTCWcW6nkVCPvjasz68to7iTjefrjuZr6xvFO2JtOnlbeanE69iZVV9SnDd1TI5rSJZ6t1FZK",
  "akURlytrW5WqXvi0XWzEdYWxTatC2njjUmWiNTGV3tOr6J579hL5LosNd1c2etrxweQV50erYkqiuG4zFLxTG1f2xlrh_3",
  "sVdMa7hQnyEcxq53tFwVnrygb8E5e1XukS7KPYwvkkTZdXhYxYuCH4vDa5d97lYuGpghNtRL-Fn9BZqcBNbdStcYXPbZdZ",
  "1UcrMVbKFnHkkFp33sliPn_MR8whaI2Ogsolsx38d6EXqQv-rhBNCU6QCN_0XokDk7qWNrUqUtS0wfvm7frP79GLWw8teq",
  "Qo79QibWFViX5q0NEF90n0G-A8odlN17QJtDT16IHvUTBapPuhBitwSAW8qC55tBFmORpStkbX7RZMNPUbtA6jKXXBZZ4f",
  "dIITbPBRumD3I8AHb4VXkWKKwA23Ao9WzzZtiTWarQoD7yS07CKC0cG336Hp3LfDYjbfPT9UFzEBhIUNw2Hg0-KzWWkKME",
  "h5jK_KoAZOcE_KtArwQY_Jcs-oDOWU5owJ_NmNrxwaqVsfuFtMe5--OtDo8vwwu2i9D9l4bzD8NLue9eimwa9H7e3qHVwG",
  "5eqe2r1yaMiOYtI_zD-vWtXZHrxjF-SL_b1HvTKpgRu0F0svscQTUFO29PLw4GBi0U_nTIK3sU6NDpue_Lht7G4cPc0Vj-",
  "btLdDRe899vS28o6axURV8S2XVxpwcCNQurO8zlQ2xVS7iixP6PeUH60S0n_Cd7U1tyIQUE8IJhuuXhxYP9qLqBBdfkzn4",
  "HkxchMMauofQubjp7ECS1QvqlV7ZkgiInCe6FKN_vxslxed8N9vEVyf0bIrJfvQeHskJdJi6TO5kVIOjD9FoOuFmD3XIKz",
  "SLF-1tTgZU4J7Rxx1a3npAVnEIeBZN2pYeDXjl6P-YszZwn1QZM5Mi2rKYL9UEmEO75wBcAto31x-udJeGqzFflJXBd-Ce",
  "gMi4jbq7y8dsGiQWJlZ938-CidTMYhtku-Ae_C1HXOw1ftT0cTyfP8vgHBXQW3Bkic787axQJlj6Aa-xdth03FnyyhT7D1",
  "t0Jltjv9jfRROhsbyr0UNLPj-bz-fjLXVQfdVhitanonM6w0dVkIJksbUMMVGjQu94n1wXu0CMsTOJV-2319e7Y-TDyfDH",
  "y_UumIkyaG5syegItCuntkOJIZJp46OXL1_SB9moB_wep6vJfVu1r8hui69tz4C5q5b_-vLwwc6EcCKv7Gxn56sz6rRdrJ",
  "gkCWhWORr48vD8sGLCnYERGZMCGTZ58mTCNLHwyXRBVTTRGDKqNm2Cf2YU88FKiWZayDgB0wc7D3byUd9kwoxmzrNwIRi0",
  "geuyM-S0hajI0ZhEjYnkm0PTlE8evTiyHbOWukC5QlRDid6q1IwpYXXoyq-_vbx05JMDw1eI1Y4qBPvtOAPwFvhN0H8IYo",
  "eMGRTRiu5qcSqqXLXSo42ys8X66HhZoTV0n0oyhfBn9nWBvBoW3H9vb7qarnYvmkhoGfxjgo7kSyY4hxxfL14soT6OBuD-",
  "9hQQC_Tw6y9_i5kfIhkyo8Tuxw_X64x-aribru7vGV4DuOn9T3-a_tQpDTf_PmDgHvCP0G955wF7R1ovXi63Jif99KAlSx",
  "dcjCyzTsY-fb9enC412SZbZdeLs6UFf3SLHJVt8Y_zW4UfYilOJr_-8tfoC7KpkWR-y_F4Xh2TjV0o2ANaZsl5ChfMXDP9",
  "-eE-n0Jf_83QE_kS5vPpqjG2nhwcXJjgHXuO1nirh6fojW27FA838ZDdYFgfHS3fXb--Wh_Nl0qrBqw46-hiQwjuPZvsMW",
  "LT-mixnHAf5ixRb1RDtpwfthfRd_b9u6tL_Mi-EsDgZHleLS5egC0RcP4Sna7nJ8uGXWt5cnqDBsS4vPqenQt5jT3_c286",
  "RdcBTkphpiItx97j9PL47OZHX_y493m6QlvPePY_iUwcxr3B9zbDC8vnpzffqK065rydn-93Hv_h-PHy-ORmI0Vx-ZeP78",
  "jSamsYd0g7sl9Q438_deMMxQ_oh1mVwG6WoUONXit2EfKCHcml5fHpzdv1-uPB0XxReCY1NS6v3kxuCZzl85Ob1x_efK-p",
  "sdq535Fbw_PPb5hvEe2kvfvpil0kYfWVYpu7vz8__MF8nr1n_tTNP_7ec05Cc0rrSFpY7Hi72vndPZHlHVzOGAzz-fMpWA",
  "wboj4iKhxLzvoCLKaTo_kcjeNhwGD9Y0_FE2HI4TUNKEvYKYx3M4ZZzpwrOZeZOHsOTh-r2RvygFXvt_3K4esarTBplGMe",
  "3qKTHN3vaGZubk07JXzOeA8c5m--exPPPl-cJ3w5bsDm6dNpD28sGf7_LJlfjxPXGcavWWm_g-tK6a4UbK-N_4AXV5RA2o",
  "pKJJBWVRShMzPH9uyOZ4ZzZtidAlLCspDCXVWpvSj9XyVthQoppIkC9IIv4L1bf4d-iP6eIaCz6x2_8-ec877P-zzP5DSP",
  "LC9o-Ym9eO49T56kJ7uDq4nwnFz_4P1LjaBM4OXZ7vj2-toPL5x7h5rbNEEAXpt0Y-v0CH42Fyhst2NyCywpxaPhCXFub5",
  "1c-06n091MIfofbn00_vCj8dqlbNagrxTraydO0C9n9NRFAD5t3lxf6ygn2Ifd7Mz_wDXWerLuz7TbDU4EFcVvZxubN9cI",
  "bdA3v8f08qg09D9TtH58-d1NNvZ6mRX8XqPGQcjb66TCKUafMWAMGSPG6W6n_r_F6DJ6DOK6xHWJ6xLXJa5LXI-4HnE94n",
  "rE9YjrEdcjrqfrcWyL77aI2SK2wzkdzu3wXYeYDrEdzuECLAaDOH6QaIwRY8gYMPqMU4weo8vYYhA3Im5E3Ii4EXEj4kbE",
  "jYgbETcibkTckLghcUPihsQNiRsSNyRuSNyQuCFxA-IGxA2IGxA3IG5A3IC4AXED4gbE9YnrE9cnrk9cn7g-cX3i-sT1ie",
  "sz445mfWqrd5q2xOT5B2fNFq__hJoorEhXDo8psiibw8tDAMu8fpoFMQD9-rEx_vXjG3FE3_BiXBm4lEmR8NmE7G0U72Ro",
  "twyemtKLpShAUyo2mWXXy9d_F6tNuSY9AipA5dCDArOj-ymdMzMrTV5CMdOMkoR7g2FJGavVIXKqDD1hAEeXx9w_4J6JAp",
  "IsijPqwum54uV_lk-WLxmvli-OPl4-Ofr46ODoTn3s-fK_HH3FX18R9ZLPz-q_Xi2_5LtXHPnq6HD5iNjn_H969JArPFz-",
  "6ujh0Sd8-wWfv-D3I11j-XT5B35-w5U4a_nH5V85_nz5O2LvEPf7-ugLrv9k-RvGrxmPjg44_pT7PV_-lvs_X369fMmxF_",
  "z_M-cdLL9cfbJ6cPyX1b3V4fFnjK9XB6u7_P3p8dPjf_HNZ3z_y9X91aeru6tDxgFH9Pn-8efH_-bz3eO_ce79-hoPVnc4",
  "5z7H_smVPtenOvYBn-8Sq98Hx8_qqx4Sf7i6d_wPjj0g5t7x4_qMQ755xt2fwd19wcbbLEFNF8hydDC7A6uT6hflCMQPnb",
  "716v5S9tAfcghtEYfTGOUsUulyyVxaNCwPtQUjQ6YDCS6C_3kLqS1zOQZedoEnHSXikPt7fJBkc28AGGIo5Y7OzkF0uA_3",
  "tc4hjFN6rwmyspAvALEsEqnBpJb9BZoENEOEwg7drLYXfK3NlT2izSGyNCx9iOhxEn1JIBkjioYGqbPMyJVAtxvpnQX3rm",
  "J1VrkFHvqdSofq8twetkGfgQ7BD2jyb0EYx8wDiZ250OZq0BLSdLRZnJopZ9BL4wIuWVq5GXwBr6F12v0ig7qKIXNljnJu",
  "WkDivQ_KOClq6UsTsLCvMqooxkjyOo28pCa_Wbo5UliWi6c0aWu0Y4KhPrICIvkUKat2w8Jy_Xwa7yOveaA0g_05OS9wU3",
  "gWPdIkDoHtpGj99ZL-zJLkdl4uTEqXlnUR1_4C3ZluHwVUZIi0CQUtrDgcfZ6gi9Ja_OwBNVaGjpeb4iNdGohwNmD6qPmy",
  "mCOTOJfbeRa7mO_JntGkI1IvFBcrtJzlokBPCFRcITOlOg8y7ErBOXlLbChKNTGVFfNwle5RlbVM1zKFLGzB5rkGpFZ5lZ",
  "e55LE3eZ5UP9L-BvCqWZkDjvJJlE1chTX1kuOeDXIAFFsrINyV1SKZJsINNfAlp-WmPpfLK7dSuS6pkkbekY2uKln14P5d",
  "VQDQlsIP5OZkLOzUkL_ylSpTkoTaLc_0Eyuvoq0JRnKzfATdrVBlicSSKXZK5Gsxl0eBrvSpHjqQTRBm8hNkxmmCVo6ID6",
  "tQPyHHMli8kHV3T9sMn7NpHttQtD5OpkzUSlaq8ujz8QLJapQdMSJQtIdwUlmWnVX2UH5lOA-0zi6rYEV-17J5sBjmp7Sg",
  "wBpaCch6Ma93VOyqyqZTUiLMcqvFRGJR4rAH7fQbVw5YcPJD6B-ucGJTBi3OVLOUDa1BBokhuntFkHFJWUeu5lUWhkhNOy",
  "3OwNv9nCwutAZIShWOfDdfOujOVLdUArPRWquyyMbsTmFb0l8LFQlizyQ_V-Z4bsZUYbcs8R5Hua9kbwoKxjInwvn7up6s",
  "SBDShXORHyunz8tm9FFWBiipKg0LqkkqPNtjL-20UhmgXpDF0qVkwg02lNqVW-nPqy6vCLlEvKud2mlERyXwvNB2pMCvCD",
  "Zz6jOR7wLJFSLUSI2AF5i_MUG9nB4vS84bmRNsnrdirsLxtH5oNiBnCfmzkMXq5bHp20oFhiZn8728XgG3U3WnMwR0b6It",
  "m4l0txcl-KtNji6rOIlLoyIDfaARcbQhAzSQIyLHT1eZItJipXeS1I5vNf3WX0M0Edtot5FgJpJAm1V5cUEoL7U6vqBklR",
  "fcDKXuQMe0qK1c5EVzoiKG8ZsbMjFQwvEvrJ9BPAoe99TEZTKG-bbSBd6ue4coTRQ69Y54hojeA6EjQwKzIN5O5MjY9NoH",
  "V976bu_0WFx3_5qSmkbAo6U7ZP6O2W8ZqQZPycxlvTXkHYu8g6cp3TQ1N5oTmQBp7XrJTSQtWA3wPnNX1HvEMtlBQEE-sd",
  "8xeQ0PCbI7JueoFGfUcphHd2LQcHAvipEqcqZ5st3-mSxQLx_Kyzj2l1XEzLKYq-elMie-73mAguJVCkK-hHCF7NcpO2Np",
  "ZXvNCetPYbtSGEuj_6n6-UUhQyu1hbZkDflcNW6uyZGUY-5laylVWO2IHLiuxS5c7RkGmZPxD3bwuICtfJFCWWlj15Wkqv",
  "1seXr-vAqb6gbhhOh6T-BlKMkIZa3leS9ULupqwtPY1_Z2VAqa7b7xU0e1yx55-9atWqjkTZ6VzZMt0cxkL2wHrj2ZMi_n",
  "5clFNi_mjTdvACjTUCivtw21eTkGY2apbCq_p6fS044Bl7NN2de0LGb0E2beaLVa222oazoLNGm9BGnIORzrtQLp7VwFWp",
  "DsdqpeMbPX9B6ktVBuQEMM37Jdud6g1C8KttuFm8j-8Xr4hiFDBECSugkQtk-VyDSY6y2NV8MN5TU3PCDuoWppbQ37xgaZ",
  "KhM9uiYOIevT19xdKbRbv4mpi1F1HskEGO-pnTA3bzc2x83GD0SPOLXc35Edn4OJiUyeyeY4nm6cFMhGBuIIvfL2oqgVs9",
  "d7l33rr6pV0iQ0GbuYBMY1Jy3vwrOFkAEAO9sMxQ7n5FrVPVVDX1HmMXlZiYflFD2TIDVqr9oLO1oAutXrA5vIH_Tt0Pu2",
  "3kCM9YoCQCmn0yDmonL2vey_zi6VZtCx62ty9eE0trRnGzdvj0e1C6hXKjelf41eNoWab0xazfV6q-FUzyKpXs5yszLzLN",
  "uUWX5ODFRvqzyFuDVBA5UzGcy1Sj8rzeJvb7KCMjrHuVBFlqLX-wXf2R90Onpr0Kx93ECtozAs2CIGysTeEgpsuy1zmRkB",
  "Tie1eUqpFvNYO7FQkTTQ-6cvnntvu-2ymXXT_5NoPr1xI0cUvwvwd-ByEWeNeCaWkgALSxrA9tq7BuL1xnIQIJegh91D9o",
  "hkU2xSMm1dknwSH_fgQ-BbrvNR8kXyfjUHAfo3ZHV11atXrwpZ_wU5c4ZgypAnoyRdKDGnCS0-n2GLKFh__ai4vy9alEGm",
  "Oe23TwRphcKpYG7n7_A4AHe-d0__968cFdUXKPejqMPC2EP9G_RXDhsm6sxzsPNR8c1l4eGsqB5ILZ3K0XVYOrWXLRO1NT",
  "J2McCdldP9gpKYYTjlKe64g5CjYHVX75-9e09sFVE8tn9cqJdHTjiB4K5vo8iASanCl155qSrDAAxqnfqB_CVnTtJKvIWp",
  "hI1aMpWyQHzrUV0-OZ-24bdcZvSXp08oCOeM64r12bqLDNFKZG9RDV3PCzjXVnAYzrBUl_zod3xzj4it_FMlbkjx07MnZU",
  "GJFfRtHpxQIC59FAkg4_UHORzsPPl2t9spiURZYHgl9EHFWh97hPp8arkgnjX0R8FZ_RBX8W9GFRVOLDm0TYfySrm28jRa",
  "Jw_b6RzlNT_94_d_v2B2uxpnJRqTp4ICKbZ-ba3CkC-LsjxXMVA9wmunTCQE_65HRk-g4WW6_M3ZqwI0Umu-DRexqwt9lZ",
  "vHxW6f-a4o8d-b92l4zsSu7MNdu_ygO7muPgbjyrGFK5Mkf9rs3E25-disqv70iW5zdVo-OoeFXzItVH2b2wUsyYhJ5_Le",
  "xTcoFm3B0EPF7oHdfrGnlyDjC25rrcx9cHIHL2H2kWfgxjPq2CppridyS3lUFsxoxZ9lGiKI8vtGMTqnLuakXkQY6oPNdl",
  "BG8jDTgB7-kxBNDp-nKMQVC5gcmojReKaTisxZOIOOMmKa08M6QaroaqeSldzNfPiCqpLz4Wub3DJ7twuMH1BDRIwm-swk",
  "q6aUUViyRTAz2uRQO9q5ZkS2JEaTRwFEHoEBKC4ymir2ORl0-JKxxYmgzd5EG7r3JOYbevii-iZPwkL2wnj4LFrEias47l",
  "M22caNMCtRi3lIDTKqhYHeppohap5U3l3uGeNDzQJHdcrAwGgtmg4kKKmi24laMj6Konty7CCkSNtZx4Rdj04h1vKjg0WK",
  "5Ywf9dwtTZxMUBjoRYevXeKQac-P4jWH_zb8Cz5YRP8r1817cWSxoXE3U0j0olSrP3CxFi--xS8IWCJ8cj53Kfd2eo9iS_",
  "Vad4dk1fdJACYCVclmZQ8SbJZzIqJUo0o25iTSK0_Jq0rGw9deyPUxISyYNpVvsdkNaZGlPSRLCcfvUqV0Hm18pB5JtgAi",
  "FR9D1sqoJD1B0x8-0_NF64HUOymMKjPX0Uu2xIbOrj5AZsgbYtcBmhwGVWKVRR6jT7MLgSwmdouKphiqW5Q3Xi1HdE6QTH",
  "d8dGAfFdU3x3dkRxNUpQZR7za6vcBXDPrwKzWHkB_VEytu9k7hrXhW--VaKnJoA22w2JyzOxRZTbmdGdfrkvWoFr_pE3TY",
  "IzqhBRJrDBWDzlu9XFYpSHy6FWfKyH7ZddvE0Nbzf9HBbS0XXJ7VtYsg7-VdYT9NnI4XKydnHL7sE6_SlblgOQUUKA3imO",
  "fQYkHKO1NsUBi5bjsgflTnjh7FrTp1ZAla5ojdidrQhsj6xTa1SJjymoJQ5AuDDv-0e6vYg9En1GsoGHgiBn3mpvUA5lJI",
  "nyDIr0QnyU6e6CQUJQdh1neV9VuTEl6PAlkUa4v8pktqO7HLBIE0MZW2Qgwl6lgcX9ilyNYhBPhgifj8YGKsNWzOQC1Hxr",
  "hcGf2GiLmAR78OyDd7mGNwSLL5Ib3quU9UaT1YBR_SMx9FNcVQRpxbMuZbudgylBnHYDS8Yno9DzS-Cj01tmDP3Kls6VO9",
  "Wl2QB1qjCFRnMMxb1Ut9in0Z8alMnHdKwdGxJIQ4lpWnY6UDjTZkHU1xUlcRjEoEVnGqxuQJ3Q-i4xhqWRUn9lyUtuqUsF",
  "O5m9q56-m0RsEiHbcJhpsQUS5EpOup2Qnf1HaOSOBynHidolhYSxbrAMHUsbnr5AE68xHvBj8cxaYPas_8IKyrFisBE10-",
  "KSoKf0QT1V0hibo5cYnaW3NpQlc2kVBMKuqm76xdH4KCMZB49SKEnOG6CAk7JffInpGeUFkkpd1ONFhpKAMREFVi522HDI",
  "EWaCJrnge2f8TRWrVLyETeBF7Rs4ZJ9WzPbxSpdwoandQ02_x2uw_VZLJgPqq9CmthS9WMtrfVyUIFPJpdYzHWU2xlp84o",
  "uFeocVbl283sEPImMAeBLSNAcoOcwnZaGFTJfrWVdNnyVWK4rA5Kz5Hr_wzm6DgTopR8C2x3MPggbA5sDQU_pbpug8nQim",
  "umx8RtrCoVUkURvKpbqGR3bprUjdjwetqZyN0Yt2S7qdyw0xa84n03t5bJi_Wqpphw74oFxVYlc0Cn-qhD5vChYg0FBaDm",
  "XmVPY87YqcxPJokfFe6s-5JtKg6qT-x5pPGWyAzvzGOkuQKMpIRcUIcrnSSzPSDCbZdRFpA_RJkw1abwkFMEkGJS7GwHSV",
  "gEoW1nQINaXKlNJltjb_t2jmh5YeJdsls2PVeo4n0bXjKBBA7vEDBrVy2d5bgue64bdruCke2ABl_HHrudKlPkXSoIFVxc",
  "AGKzAm86GdSe3ReH_cnmqRY_i7WIrEOozFX0m8IB5XvjA0g9WiwpY-EAs-Bi6tgVXKIpk5ZrwaT7_LNhi5_Bh6OaaLODzN",
  "ZX8FCKo7CkVii2ylx5r0ZtZ767tdxBymMbS6mTfzTsQpOlM0JZrcxXW1NZxWJHNygOdHtHLUzgQZyL0k2LTkHsDeocp9XR",
  "iAG87Vj5qVEcVeBnwbGwnv0WkR89-6oa4zDJBsR5gpSuRpDnI5mKEEbYc8aVqQjyo_ygKBQgOIsBJinBI64E_8J8KAcjoD",
  "WIFa5lv5B9wrJQfyPcwCfq3T-h2sjAXfyQbFzwk8X5mvWY7yqBBxEAvxBd0-FbJ9bVvDMknOxEzDHI80kY5C3-n1umq_uY",
  "p8WkYfCtTtOVIZgD6cXULKKFSlh7rAjWEU_c4Bj4yxtDeKtCim3k-SurBQbzGQuCf9hv83COqJ-DNeIFpbr3F8i2BfPxaP",
  "Oay1LJKm5h233iSre2PUE39LR434TCo6jVNpfKz1_--Prn4o1SgrqMUF9ZP9AYMjtrKV7bWwCeKb_sdNnhyrBU-a5s8Pq5",
  "mo5jAeWOMv3K8mJ9cvK2N1EneFqWcvOLeHgcTMzKjW0m6Nb0hLeGEqP53oI496YnXhna-IBog3zbLsV3YV2vt6Fh7yIRJz",
  "qIAoc5QLAtQH0xdTJpd8rQQjtVzMfxk_8DDf49lM471NZqYQKkIme7r2roP7KlB9pb_Gy2YRH6rUz_B52Gyaqhh8_04VVK",
  "CAKO7U8TRE7-AWSXpsAaDudcFr9XD7e2bizZZqpFwvj2A9to2KcLFprFW8vcfmdbVj8c5Vj60dINA9VMyVNubLiY2XG9zm",
  "wAWwtWodiq2ujMsjY8U1EXS8RtkGDd5y9WYS-2o2y5o7iMNqUzXSb4-3tkIc5fbuKxiinH3ELmlxt2jYQnoVf_KVybwRCR",
  "uN5k_nyKMnhv5Qcf6lc2TSlRbvR2guickzirZa49tRkDv1GQjwxKdnLH9NSEh8ImXutnVgVssJTzcdwHbvifjuI-euD41_",
  "evVt-XNnosnlsVWBd_E7thUBiT6cXibz27QaPY5rT_y2ybKsSnaS1iUAL4SSxIeaDOpubGSU1UkuJTzKOTo91i7KXSK1EN",
  "y01jiIEzGOaR3zZCyjZPPTc3eBNfL9QpWHZzh6sVm61CqDgtOgzbIvq8m00NK05tmpG2E_o0PC07k7oeF6_7CqHk_zxb22",
  "4b1xV9joD-A6GnpK0do0BfHEdAk7RAH4IEcIE-FIWhRJKtOjEM0TYqFAWGokgO76R5E0VKJCVSpCxxKFkSLzMi-TOzzznz",
  "F117GyggCAI5c2Zf1lp7n9lHmxu7wqAQagjqiwyOH7Kib27IRGj3GYP14V-ko-MX15sb30vF_CW8Gdre-lF6NuT65ebuF1",
  "_JWVrZWj-X3kzGy-HvpAf-Lx_S_Q_og8u_wZpPvtwShMtk8-GW9MMyowg_kTe9PLgJPXqNz35dB-hglmyBd7ANwN5N-pMN",
  "mceF-dTM9qs_yssofikEZvE-4NVDbog-X3-3_kb2AIjeM3FJkBAWbq7LpPj3W1LdpPuSs-i8A4aZnws7dp5KH8jY5ZU3dl",
  "fXVn7LYve3F5xmVB54-i9uaXb5LPuTL3nUu7WLPhZLbGM_s7MrI9yvvxUVlRdxoXWZsDyTNo7HsOsbrEvvUIt_Rmxl3rLy",
  "VHYHoe_4ZfDP3JjsyOQ_LG-0N_7Er69DfIL3l92N_8-XV9f4fwDYThY8maaHedv8NiznEfgl5T_--ZWcQ3j4_C02PzvoD_",
  "ikK1v4mKezmxs_cHMR4rHGaggq95YnMkgytgg8DJNZM6KENmULvQsq2refdmLYMENFZST8VKrPysrfocpv1gGbHTkd8Bg3",
  "8unqHe5O3kj0Vr8I_S60Khlf--ktM0LmuOHvpUZzxeFO8rW0gKzJPKZaXXsnxw5kD7wjs0xUKDQrvBN8w6_W3khvj-ShMr",
  "1af7f2ko8_h1k3VtdkNB3-WubDMhAOvZDVHn0i_MrKX1-FQnJM4kfsU19uP5Ag4hnQwW-k4stsMPRAsPQH0Rz-H4nVtUfy",
  "yvUHUbkHIk-_Mq4ADMYtn2cMPRI6huRwRFh2B19syu6Pu-_tHT4btxoKfdokyMoPhPyoX3_-9-vHMlLl_5nYfsWbdnSMfJ",
  "AjLHON38joO7TyGXNwjQ-HfYbPN9ZW5NuVn9Zf8LmhHU7Scz5pC04-x472tfgY3nmN33JixvanQ1VNaMfy5yU9iwQXZX_Z",
  "UZERPqfGXNlF37v0p5Y__UCxS8pPtdPRhbhxXDpqUH7kez3VzFKqo2rjoHaLy3zX9d0-lSIm8YEm1_59xJ8eqlZPN9M06f",
  "nzpomU9Y2nPnZUM6nnRX1RV0kLf5vRPpbl5y6jbNJFW5cHyp4EZ9Wgc8c3WjGVwpWjoOYEJwe6MaXYjT9Nm_lcFZr69sSf",
  "L3GLmcOqMTUH2l36Uw9Xmrt9Va2bfjw4KVLjmLpZdTOgeIaf7jVVeWxqeYrHyJmp3MBkCzTdo6arxjbioM9d-EX5Ik2jvm",
  "f5M5t6c8qndbmlbj1qLHQywd9eV-hsTx03VTKtcG_1Kqh5qmnhD1Wd0X2eMjXfvVT5gr9osNluTjVuqXtolnUEDQHRXku3",
  "ekGkpKZTZedptqRiimJj36tifdMZkJOk2EBfSjruD6l4YJYN08novRklPJ201VFUl-9oWPCnVV3JGGdhnA7FsuZ2pip1s_",
  "eRUm2K9djs1ADLIrNUiSNTlD0k50TnrhA0f5pSdxP44s8rNPmovbzGvQPLjM60F9fdBWVcXfdoXlHNS-QuaFrmLOJ7E9W-",
  "V-WRykQAm6AeC0oLlevhb3LG5LkwRgEA-XRwEDMjT91UaJH251k9d_AIdZcLrKRKnyMaqj2heYmSWbLj-tpTuffwkRptfw",
  "pcddVBCVGlQi5o3fgzeJo10XlgIYwJXAak6X4RIAEy8TkeSt0EFWyAh7p9WAL7ETrdLuvzsT8t4XqENIgOgs5MNxw8PUhk",
  "zPJAHYzo3qJ-WkVjFL9DVM1-EZhkXJUiOpmhqUOpc3xCmSqjyy3w-sMz_PizNjWv6MhSd3nTt1WqgguAfD1II1Dqek9ZOa",
  "AIfCGrTqkW7ARK8RUMgNe42DgjauUAQiAHgeKczq9VumEiB3R6pQ5yvudxdiI9cieqcqWyjl7kmK3XczM_87209rL-PA4v",
  "OGJ3EWAVlATLwFb2ZXSkDha66zKQ3AZlK0gEaAtEIebquMD2NxaqFgMUYTnFJvALiwClZNfAGuSRplUgjUZx3Y6AVozbXJ",
  "_sMd-bcanlAh6ILazC9QBVkMiyj0Cvm6FqU12eAL1AI5ZCkJkFbsNYUTOqAO0MxdbMOEMYzIAsL8ltKhvpdnVuRCfR4Kyu",
  "piMqZDiMg2sgAXcFFqTGIueQc5cvctJLEdVOUCIuj8uZ_inFb2AhAiualsb6lE-Z21OEVNlVKAyIAM3xvVMwTvdHCAj1wF",
  "YXcWZPyxaVHUrAjCt95kFhyC1DcxAWXA80wiR9XzULCEsL7IPumdEJoxSpb4K_NywOx_u0sMF99X6oygvt7WsvAR_1sKob",
  "t2ANIEGphjrqAVeqvhdUSyye9pWODoPaAIsEZQfoRZyDo2OaTk362oyGur4g94ymGdVsMB56N2pUNouoZhvipr_PkWEmOg",
  "z42kDtA58R_XFB83NVg4yzOgUXB6w2AwjXLDg6QR6DRJG6-9B8yEtQLwCKULygNAbdmClwyo777oVOnjM1vLwp9NQECtNm",
  "C50xMqv7WUBOdHgCp5h0qQ5Xk2LKOFdQEq4-XtrcDoJEXpcnDMX5NZWydF_hEpDq4UrYzLlYXgRWi94PEFVO_dUhlByO6P",
  "KNGTFKVbuDjJhRj3Jxyn-k_AewwCzLkH1zO_RnV1TI6v6ViEkciGICjm6ZU5Blt0zDc9HPEteXQZrcPHBi7EvVjFKpw6tx",
  "EsfkRP3lkUp1jQXNKfteirrn-kON8qeQVmVFdGrMv5Mzsi-M08XjaBkLOh40HxWBrvL8ULtIFqOUv_3wHvWXMjGVvgz2Tq",
  "EPeC4rIfQzHmM5KsC1GTMd_O3H4WlQPwExuW4uEzBVl69RUxioUM6EK3HO4is1PIWqw0F10FKVmO-mgR-uv-0EfGT9T3XM",
  "ogQm4omAHzKuOxbqBUuZG2fKeK4eAs8lVDcuQIUo9JZBheJiv6fRDM81SfB9xBU5nmH-QiuaLX24z_depPUwqd0-xJyOIU",
  "354EOGnGPmuD2G-zAVrQLs0cOF8D1NuRbZDVVrc5lABURLYKW5rwC77YTKJChbYxbUhkEjTo0TqYlCLpT1RlsNuzrWB0rV",
  "5JqaN_CRIYd6OjkWnLcActiDOmKW8OseBYLJ_j8WzmwrkWyLot9qZjqyHOOmZmFZz4j0XWALCAiINHYBKCp9PNxf4ZyI-I",
  "s7V-QdIx-ySI3m7L3Xmut4LOnhJZMb-Yi8RrYyTmJtwTBntlVNSqksO1u-GrdI89hkW__k5oJeii9gQsOEK49ABpeDsNcW",
  "BdU3fvIz2LyIUvJ9Xc2diGTQ9i73LTL4qtrkXDJyiYI1g77HJFLEMHVhllW-Hb_brWr2ZYsCYPdSLarsFiWwIpMbnA4nDe",
  "_TZrwWZfG-xRUdgm7oz8oxqblWtdExi3fjMAVJptLc3zGntlWBjtSW93e7RYF7BadyUnudpeLq7cUMMMPs1LE0JGM7zsEb",
  "2NbOc-3VwjiJ3bxsc5emNGFCUWOp3P0kGCYEJ681wdjb1u_fBeWvaKEeeVl_NfRXr7tNBw6R_uOJoy6khJSJN9DAh3bYSA",
  "X1sr3EzpphrwxjaB4_vnB59efmEqrx269C1laXlbdvK_-mGngVEc5yyFtg9ygeyxJkIdgsnSn-bLQhBI3VtRNCUOrtJLcQ",
  "PU7OJNrvGREjBJsfBbM2BmHSzCmX8oBPutfebIQ3TjVwRyyOZhZCdkrhICvKWi8lv_FhUDwzjDyEXKjv1udh9Y31pAnlMs",
  "1SMIxL2J0E38KwIJKaQerrtYIxHLXdLQYMuArxUcAZ_aHIjQHX4mBk7m2Q6Pp9-Y69eYXEoAt5ECucv2N2qCbsGmYyeq9K",
  "H_MSjVC7hqtxy05xXnueFF00c_Lfh0zQ24hqENLmkqXD9cxrlfam0OinRD7NwJ6Lmlr3mgjoUXp4h7DoapMZDUb3RtOUh2",
  "GCyT1_bN1lmqQqc9omv1t3pAbZZ_tatI03W-hHPtIQNqdKmiDnSY5Z_ZQRv2eCUT7YbpkvJkUVdO-FkfFTrgZ4cy8ig1LJ",
  "bIZ6-59vcKnIH4fKPDE-DDv3wmVAHdo1bD2qXks5rHSYvl1jQD383WQ7Yf1Bi5-dB_kECwW3UBH70rXXcyzbTM7lpNkLOA",
  "1ntLnoqZjHSlkEmBpF9_1AW3abd0zHf73CGkQaXiu8bSJ63Mj24vQYtaB2eAGvad8uVGi0ej73r26DzLuep5IWE0J6eCVI",
  "8wASf3LT4K5kFnN_4Ij5oazNvYwsk4Z1pScgKxknO7Hxlj2jCcvykZLDFOBEvJr4ub9hOhRhijmkUq2Igi2IS0012PqZnq",
  "HcCi851CNJK1Ju2_LoVSANyWLQFJdql7ydkC_PpDQk0WSKUoYFl00vB6pX7lEzdT0DRHm8MN6RcqrHqmH7ET0JZnNdhxek",
  "lI15WG1KjXGHzVROR6pCz-EZd6EVZrnyUUpqddFDRUXo0VVpaPgIcj7NNMXgoJyBd8eQYkCmRE7c8o2KBl9D0-8jEUoxuB",
  "4BttX_E2npYXpPPYOZYjqoff5Oi89QD7I4GgVivsKrOoXWK1Sy8B6SbuJrGkwv2zj3Wz18GWlSCls-YU9hTXYmRc15tpBC",
  "ZsNrL5q4pSiCxIQLk01WM6YMcbaLrfkaGOed6d6tNrQQTsGIkapwf7ROoYzeuGqbc-JVj2kCX5XB6Z81XbEIcm-0HO9F3R",
  "UVmSYUg4CfpH9KkvrUUOXDSRFGr6K2QZS8avDeE7N9AuQZ02wLlT_qdtom2cmAyiOhL6GP52-9yk9zQ6Uz2jLeQW0ELXzN",
  "wouy5NI6TuBNjFMjJWnkV23Ney6ahfpjMN4KsYpSbHEjCY6bllfyoFyJVK50sJjRRbaV4Nnogd18Q_fKvuu4W9o2n_SO6K",
  "1CCjm3h8KIhXJZ06oGy2eqwPuaZZrHhtvVeNG8KI8328E0-vyMLNAU7iZc352CFsrp0wQmaJwbtFRuSFBtzFl5RltUnE2H",
  "F21yDf_pd11xNVq9LSgZteKkBntHUqgHY4jIFQW5rWDWQlEFLb0y727LUVonYY0vjNthRpAd4dbjdfB8499s-SeCiZSBJ0",
  "F4n-ty0qTnP_ft2Ikk5dU8_JnoNJ_IfR4e7azPWIkknYl_2qOjYFReWfsn8yf8yLg1bUcQGSD_xlw2na35132hL9-1JdZl",
  "FY62nkC68UoHKodmPTMt2I4jOSIkstq0TWbmP52qo04vIxB9ibZTLhkK2-2pY_PviIlxBubhRvObOoPnFQEEDDWYzTQakT",
  "t3gycovRzeVvzhKWul5RomsU77mQ1mC5OaMmXGqwFO2qQihM4HqnulxMv69bX2RtZxkpRsVM5ejZxCnYZikCmUHKMEx9-5",
  "GmkliqhtPFrAL9rUHpQoBRJotbEqas0USMdS2qNgcWRG65o_jLOMgB9rgoSGp3mbfVMXOT3t7SwfzGQq6vBaxPMoQTDICW",
  "4tbRFTaYvMTKdqOewy2WZarZtXR3XvbKVpJgUzxUzLCmjZr2B2r6zUm4RtsE3bQXwinGvdSjcWb8Qi3k4SB1M18krQ9XM-",
  "CZn3YgpVj_bQPpUEPxpCOIJAoREJTpGHkabVxn5z7beoBYgyMyMMoiGSZH1Kz9o6WNfsWYe2NL2MxDA1DXJjbYKlUtqieR",
  "lQ8bAOJ3_yLqIXCMQZk0m5HS6pnQeSC-lSGWSrHYP7NdfZratAr6062gcjLVIUCkehX7ngmM4J4wkJbLlNrYEuySAXucnQ",
  "S6C1v_JQOX8kCvJXWVZMoSP3SI7THkul6ReAwAYV3837Er3JPPCaJl3XKzdzJFn_mXXOkV-CaZc2Y6H05P2Nv2rxoSmdKt",
  "h6Z4HX4KUIAviRNp3WNZP39JU8_Esv-HDMgoRypc1MOIHhqpxH7jCRUMNd7hZWRHN0l48kBKup6czCW8dvxaVOD0NtBtbG",
  "dnytDqkvpdXFG02ZW9TgUKx2GfFU_EF-Mf3cJXrrX91rf2OQiHaoRkp_XssHsRodf9aRPsCWsHdiJC5qbLUbmWxE1sOM9L",
  "CtCJmU8eXgbs6WLyzgN82FmWKkcg3im4Lt4zIc3ADPShw3yfBxKrqeF_garUOadK95IYbvFrmw9m5SOaqv_ah1Yrd0TRow",
  "KPjlR3nc9oG6iyEn55gyfaI8PprKtVNfXNa_WgEtopd3hVbsXiwKSJ9t6G1t3HVf5NEki2bBzlO2f2srd_7LuXaJO6fhSl",
  "RG56jtp-2g4FBu0el85bvdsPZp3Y9gtDLpvO-tgvE5IszgmNNbEdF6vVuUFfrcsUr21fcLcZsq7BYA59wvjzXUbeRopTX3",
  "PkQjd9rsheK0kiTlosfrfD_RMY79w38PdK7vR-zgR3REMnZwePD94Oifg_1fv49-H8X-Ptn_fqKDKvqJ54-j6MDsYXRg81",
  "j_v4PYXnRw9vDw6Ne32H50fvbw935Mv4S1p_Or0ZHS4-8HJz_2fkQ_Zz_aOznkmtF1jn9En0Sn5mO_Y_vc93j_53-Xh9E5",
  "0uN_j3SWIzpYeqxfJznc-2vvm353-Wf0gzQdyT2OjhbqsXUa5e-Tg99_Dj4eR2drj_f-8_PkcO_7USy2f_Tnlzt1pPcgth",
  "eLHXzT6UOu9lf05Pv6Abh-kKHn3Pv17eD_JxL_x8PV9bZxXNF3A_kPW72kBSwHeTUiA6ripin6YURF8lQYw90RufZyl9jZ",
  "lUQ_ybJFyS4KF26CFEHQwhEVyao-LSu2bEd-0B-Q3sg3_pSecy4VyKJXszN35t65OzMkzznEnRJqHgj0O9vNvSNuJ_YGwh",
  "V2VNDchiMEtxQWFuOpidMTtqdoE7CZzRMNyHL4qygFAXCDQLq5VAGckLyB30MRzcxv2RNPPncxx-_YhPQMwsMUZE6kTuBM",
  "-oiIxUW7Y8xtH4T24ayV6CAVPJPf3xoSshT-MyTE38DHMk5dp0gwCLK1qyJJOVBcNzKBiokSgK8Z9TvSIi7TkGI2yUPCTN",
  "W0gGs_xwxBVEpEVvQq7wmMKgSgFkI5cbLgijlGDxFAVT_JL84ZGRf0XXkQVq0gZsnsEw2KSBXCDQahrgOcTYmyJWdEMOpQ",
  "untnR-izkdLTmhi3IvNJUfkc8wtnz94EofOIlk1zR1wTxsvIuJiwpiI-e5ak94T7JPYPrcT2cpz9e8zwNCswixwzU748e7",
  "6Yoo-zo46_x6xK3PzZbuILP8_vLjuOLOC2J4ScUFbSgEiXmDt7FqdZ7BpoJESw4KsJbKJ1ccd14IXAsKGhDBFyOghGWwot",
  "nM8p2phrzjihvkF0XXoK3xtp1nAFnwgkDp_KQAyTE74xKc5fnr-9eHKxKpb8m_MD_L4m6_3iHyp5cXFfXPkjXL-_WEL5su",
  "ocXzzC7wPx6r9TySGuXolT_9aY9udP1fa9WPi7tCaL7y5WUfqObH38_ZavZPGj7alY_UeoPb5__jXHdv5f9st7sCcGvxj2",
  "787fyN6R7L-gdY3t3fmz863zf-L_A7TdNC_U9oXuoiXG_YPG_FJl7PWd_JXXuPtUJejlYkVe0zY1BljzJX5-huWn1uN4bO",
  "T6P70cIdreH1tgnSVYPPxFMeA1WvysmP5HP4x1T70fqI7pGFBZ4FTKAaewzHGafsHpxX1YeznqfzPaWB31T0Yba7peGvVf",
  "q-SbUf9UJX8f9b8e9Q9G_W29bunuE1XAv_ej_q5arbIhS1Cnr1Yneu2p4Ynq7POCr6esw8obuL7j-Eyr5vf8x1Yro_7OqP",
  "-jrr8d9dd061TXT2RkTz1ujfrHY5sc1cblK_r6t0by_aWdJXUnO7w-Vs0tlWxd2kT9R_Ji7zICe6qJMbxQyWtZ21OrH1Xy",
  "L7XqqXBHFXZVsiOz37Ehb22pzreK7ZKsLQ1Ohg-HjwYbfB2uDg4Gm4MfBnuDw8HJYB8_m5fl-D2WrsOb4ePBoZQcetRnQH",
  "1qMPRQ_3DwE-o9HD4YruLvTZSuDVeGy9J5OJGSw6bKWYOKDduwvEx1B9jdHTyHJfQ7vI-yV7C2hd4PVXODo8LVCmpsouY-",
  "RytticdSkjgZ_IS7j4f3cb07-J965dhWYXedPQ52xp6s4vqIWhQYT2-wrzEdqa9DeEdPqSpxQC0J1FyXNsUKLNqIt-UJRo",
  "BW1Kg4RquX-N1FyZrUKqiGsanRsgX7OaRfl20xwnXYXoOfm2i9Pi7vsTeNhZ6s4WeZ40XN3mCP0dbVtmyuoMfNwTN591h1",
  "WPuYc6P4HA6XqY7BKDHGmpd9jWNd9RFnzN02o4sWPZTtwMaKxrDNORns4Oo5otRDzcfodQX16cWbwQuU9ODDEWdc43kolQ",
  "5G2Ea3jPhsye9NRhiW1pUjVO14xjnROFbGc_eAih64y5zbxh2OauuXqB8pMg_U14myYh_jw7jUK-NwImursr9Kz5E3h4NX",
  "HIOwYeIGESNJ7GmdVS2CXLM5Q2DrWEfAU90RGlEwpYTKGlJ3EFJtzoVWWuSfGMZekJOyi-OOOL1C05Ouz73bmAChrPNc7O",
  "eCzalGQCSvsMlk15DHueAziS7ifBZnvs4lvZB7strv8nTj8m7SxbZqtPwgQN-8i7uwSbT5rHlEORoYTVJxI0ovdnIpf9FD",
  "g_ITrVSiEcYDCGO4Mnsh3NWXxLsSIUPxgRaR0Znh7q-5RJxHKXv4ZMEL7ayzZUxSdVLHlLnhXzjMEPJJOlvsciNPJKGWuz",
  "o0k1sUt0hbqEvpWJBlQsGRBg4XXaGUJd3pyPeUcFtJYgLutR1p7t5giUEh4IEg51kBg2gS54dDjq-6xsdQrEklEyY_qXD0",
  "aZKmQKRtICyTeLhM3F0e1nIe3QlR7vIQj-GSMk6Yk0BfpNR1RE3IiGUyLsnVOzCGJuhd00ndNdi2m36R4Nkw5lY0iNeM_U",
  "16GlozlmdVqyTk6pbg0hHOiCb7QGh85eaFvuMbBPguulHTzyIVqHTH82zZTXxMZBPJqiSPpIHzR90PhJjiCWlFnU2CF5si",
  "1GXMD1IGvGoGAzpJH4MaFeK7UrwRx2tjOQQjZQTDZ1O0izFjgmEGiAFOxQ5haiRpkyfzThozPNOmudLmmw1G3hH0m9lMG0",
  "3G3hG5DInLjDT2xEcGiw_CdeLQ6IUbI1KW_tWhihremB3hS8vWmmSDrOtJOkvIkSBgjQB_PWPzaYEjJQKJco5SpAPl_Ccf",
  "1dmND64Q9EpRgUy6JMLzpTkRfIRuksrX9M5coQAaDvVC4PukI5pBXlv_n5rvsROt-yt71IikrUnKwWMUI8vxjPhkmvIhpG",
  "Tw_Q1So8mpigznZqBe4viYDdM1WWdV01fyXdSWwKHgr1s2xbHT82sEGfIMRHbhqT725A9wghXrwKzDO5Opj9XT720RiKai",
  "3C9EMzYPRm1KZpkhLvuzrT1cQ1JJOPAhwXPN52GG7Lam9IgaFGQkZDM0vLgkwoL75FNfV4GUnpw5L_x-aTo7FJOpFvyY3J",
  "91g_mHlKLTs_b4Yn3pMD0XW2kjrUj4_dXk5IwtHtLAIaF6nvNQ1EKBjnkvY3LMr23R6tR8D-i1Tk9NGOQ-IuBcwhzKkM_1",
  "XpJzgiwgiwiPWdeILWHyY2oKXhERoWzP2GJFcdrcWEFMsA6pNU0KpBAmaQunMPw--YzZn2MVJgsoIbS2bN9I8c6lTvxCy1",
  "tKkQmSzNqMxa4iUH_a9gDjFJnAE56GPGV7rTa-S54LIj9DdmCzaFFyxHU_syecjCEk7VVbgpRSSEVPXeomH8Z55m4gMFHc",
  "KyQ-F6Cse-3KFZIF0G2EJEuQO3gCfouVAZM7w1UXmyRCHFFuMkUt_3kpLeqJSAxso3EEvr9NJcpMtsIfbUlv1SI8pnnEWl",
  "gJXFqGGUSQdGYyDF3WKA2enYpnlal28zp1eKcmjD0RjUlKRPojZniY22lNFshdeDvdpgypu5mIG_838_1PtmuTlhJVhZCd",
  "UxPcTDO_SNQ0s6AS86BB5Oy8l-KXLyeNfmd0ukBNBjSnvC98_x0ehrlikZsbgcnYq_imWYsVtqzFtF23W7bIYV1Jk6yL9b",
  "ktFVJkCTZ4jJOy38J7B2lbwRWMwBu3uqbaa-5C1UV6otdo1s4hJRmKtedaUrS7X9ixAjHT3sg1mQscLKM_p_S-ZiGYtlPJ",
  "zYQ7chR8k0_xFwWW8ioyOke45eLUlmZyA-pOtCD5IsJdry_4iLLf09olxyyNcNvYepRcgtMu1gJBBWXMu0Q3fHI9EpS3ss",
  "NQg7tuqBqYibm0Ii4aA5y1BZ7KpIgZVmAYDO1C6wt18vBfGiIKmtP3Mnh9UoKpoD711IS2OiQ0lYXmifknFYHzIOXStmdE",
  "F9F_2_jApTdi0HWvj9USBCmiLhDh2Q7PsLbkBddlyKPpmjxWY5mFGTt8GassSAQO-zhF04KoIRiEFDA-uNKhpjV29FLUyJ",
  "h6451KZzcCiUuR1Qy0bTROCoGRIhd9-CEfPCwg9B2baSYOKxZzrCG2zdsByzukJR5K0qq1XJCsFn5zTSQfMY7jMQ8JO4k-",
  "2rHPwhID9UfGwSklukacPrWK_E2B_LEYa7cfkyxn7OiX6jOzLMdazqNDrWm8bZQIUjqYZwRET9zgIp7xWChj3AhwbxJHzr",
  "tjGplP_lBTHpn7UUcKcdiF2-GvLWxxIWoX93i64TSmkmUhrdHbw4wFnsvddWXU1Rblt3zyl6zbxkHjti2SRmQNEqeCYzhS",
  "5Wk8ZlEanZH4fJwU_8_T2fW2bSVh-LoC8h9mVSCWC1tOb_2hhWzHTdK4a8TZ5KIXBSVSEmOKFHhIK0yb_77vh7IBksCwLV",
  "LnzJmZd6h5RjXcTs5DO-L-WEHGqmHtRlghsmB_htQw8PFlHBRt-VNSKTbljsCekq21cl3qzmGaQiBR3nfaKnaHshvRKWOn",
  "76911io2I7CH8Nr5PLJfXvd7CMzz4HQSIZLeish6mNgdDAOO3u2JSZ10Rf6aZ4cRZ8Voz1ZcJDycVwBv81jovZx6le6cSr",
  "OPrFkRYkJ8kNBFDNc1ey6Jy5q8Oj4jSvqL6Np0F5YRj12x2xQ1GwiKOpqFRIXwTC9G9-o8C64YbnUcgt64ZTkhrtzByEej",
  "exyjcG9W0mf5sQ_2eqtSKRkhGbg1FkyFN2TXBRSKVonApGUJMYIkPaUvtqXfCsIC4pqQnH5rNNGs25fKzBo2ZgykuxM_ly",
  "Evb4twGwUZMtRjm5ZFRB5aHkf1ZCm5hCsltfjFKG4s7mDrOJNE-ifcIK8eWdLVSxwftRZe8ljMLkm-RyKhzOHFyP16yfdS",
  "eEHOmcziVZbOjH91-4HwYqNI3rGFmVluOI19oba8V6_Ma4O9wwiRhtKDifwB51kyhMei5FiFgeMtglDT4AYSjo6vXrYZQs",
  "IFxzWQvE3yWr2e2Hhv8Q-yKjbv0T5LtoYQBcQrzO1KPiEtg_58hjHymz2dTFoSQZhVCq1x9dnOQ5QwuNhQOHWzSn6ZqbGX",
  "jUhYzJjD_7alYtymuP0hVzsEkpztLs98R2xbvlhkdCyJYG7eGTwgRTFcBtaUMTwyakqqT-SjfLF3bElEyqFOEzW8MUy4Tc",
  "NtIHGnXpdgNsPjO-xobkIfLqkVt6W4iHWUK4umzg1hOQ0Ilz2zF1i42-ZUuuWcRE7pfrZlT9U_NZ7hznDVDhqkKqT2aPPq",
  "-cH3sMh92d1p2EDOvieeC8aBLImPN57hXXKd3SaLBJITA2YcixELTRnBpmYhr7WlQG2HM3VOTVdOAXLsCcIZ4TSIbEvn7E",
  "IeSMtQfZWdon3dyyW9E0M95CpTx9QPX64En6QvwKkk1ovsTTuU2G8a3i6NtCdEQ2CKhCQf96ulIzJT_e5u6E6PYhYEMf7c",
  "zWbL7WSmBKNi_MOF3LR4uRi4mfGHU9QHFzvc8kqcJo8HG5cQyx9xPPB6YrpVwwMjEzxkE3yCRWXTUyVTlCZTEtgzzOiU1J",
  "WcOEIFy0SeEFVWpr4mKnY4HTcRTk7diCUZMZ5R9XTl7tHS2aSD9LFvn3ATAqcW7VQIzYnygtFoYRsUuo5jONineSA_XH0g",
  "F6PN1U1eDTvOQSkli8sfLUQjtTqd_9xXOkB6aJY0SEEeDFJgKTy8Uodi2R_qIUkwVbyxWxe5vKyj8xAJUNw3Psbq4Ry2El",
  "TYKpancH9fRbdTe-uLkSkH039_3VbxrLk20mokwJEjwE3iTAX8TIH8-PR0djzFiW0n7thLHK6CXyAHCn8kq78Vn9gGCkNR",
  "myhsvF1ejc8eXEPK2V3OSpJyvs6J4INQGsGpNVHW70hu2-jKTDCt1S7VjT7LQmkw5zbURxop0p7Ea1d4VtB2zMp4YJr2TU",
  "85NMzL1owDvRWYDZXLvTArlXv90sOhsHSCrCqPcN_gofxDRK066Vc40iMjMNJvmqQTc-sc_u42U5wzGQMJ4kDEnWKAXDN_",
  "PtF7IeMtE9lxUObk5DdsQkMe3LU3ppXc9wmZSfpseQVBtVVuquodozXW8636RE_EzqyGM-rcvzIcGc0UEItgMu-FWeQRhb",
  "m5unXyttaJQ0rMHXtTBIf0uBU8zfUwdhj99BOJY7cQlQWckLWamuHGM7Z248go7_lWzKH7Ntl2YnTE3z5Au14vfawwNnHX",
  "4-h2_nH-Z_zCPBF5hXQRRUWHu1fjOqtwpCsO8Zd4f0dyM_BlauVM5WrCtOFtp9t9ySE0FzGeiUPLCTewl_-4xlk40eVIHP",
  "ke9m7Wa2U_0dTC_SqtWA1Lej6eKtelOsT8fU1VTeZn_Uzz1EGt19wwfI8jQGDC44AivhrnbNludr5Ch_dAC3CHbIL4512Q",
  "TonTnFVLivfjC3kKNwtmyCHo558V_lU7RHidu_pKNm_Rt5lrSHqkjaNSVcyJ9oc3pjCTVPxbDXJEoq-sSh5t3PSyu3WuSM",
  "mK5RlpT8PAFfVj4lXeC3kQ14ywzYrRUOXFmoNjGAZhKU8sUj51ak4-cmPkOIyyudrbmzLKfyjXFyO9P-Iw-A7n2KiTWLa9",
  "-DXkGoxnrGPidQXcTITZUWRTGPQ_hGZyV3DgGLJEoVzxKkYvBL3sGkEGPlixP7gufOdc44GFAqJ5hK74VLY0rQOQ4cZlrQ",
  "dno-6Fv9gxVSDrImPJ873UaphjkuY1EqZ6cHyPDy7tvLYqt_xIS1s5Nh2W4lSMBRSpnlODaP5wPqheUCSZP-gQGXFCRnIk",
  "TlliciJYUJLnWwyMt-J2t094TdgnDHJA8slSIL-HF8_szzgwChs3Gj0iUMaRKMhHpm6kp2IgMFyxv6rYoo6fFLH2-ILVyW",
  "IfpvWEWNlwpm2wgVkohYvD3V6o9op4pD7v5AbYYDWiqFaPrqrcFWraflYQLsRDShtWYBGWOtaXkMkuxUxgOA9Sohg9023_",
  "RK9oTNCJBHHZ7e3yOIUIG5CFWozH5-NN1-14ZZxEUydGwg5Vg1k07dLCgQedr668rn704wTWO3GhijjnblhZW9DJI6kprK",
  "tSz0JT8SgVGRvb9QchTmrxA1I3r1hOyRRsVPWgvFLuO55NlYbmeaM8a-UFIX8VP8N6SNZtbh3xblw6NvMmHTvY4BYOaRon",
  "wjFLsOtiTe6theaqXHUFh-AEh7FNhe6caixBna-Mk4dWI0oIZ6pSv_Ya_nt5Ffe4-FQiG97PmfHOAJAsxLUmfw1LQII9nY",
  "DqX7GQbGk52Syonhnmg6yE4IdblOu3opIcIEckKHSKTp14wFXT56uWpRa82L2KFb_yYRfrPVCQCHrXLg8z62_0C_yI0bPP",
  "rQjxSJ7FsMs5ZgUuw0yHEGikyN-77v1GQKjQxKeBg4Pw1aBqE7ypgBn61BBTDJLox7OkO1hz1A9s8Fpd2cek1mGzW7OXfk",
  "Mw5rMzbEAg0vRkr-XmESTCgQPG4pIeMZvcYsZGrEQmnWOLFAAAv4rIlTfLXgu5IVtfMH2SaVa9K1Bh6MXsjri3NDDaK536",
  "gs3M_-vHHrxdlRQaPuTxM8VQMWBZ9Eou4t562v38o4Jiou4WhWpr8AU35KOVX2lEjPbbcvnzK_2h4bWsS-VITcOgsVC0Rc",
  "YCY9EKIjeNK_GF-RyI1I704KSUcwyYR3a67qpXcfpZM5fWZjEhBkjj87NRULKieBcHzkviGStYpVNEURltyfNBCofRZ6ec",
  "EsN6QVbzsLizHksZzMaOp4iak2MVjY4vBA72wWPUtrfh01SGo7Ykl8_Io0T8Kv66MouzHnR2N8q2k-lTcd1LaB4YRh-tCn",
  "B8Zd-7gtSKdZOTSvcxW9M-5zpU5wxbcCwfRGiBpfMjWJpACYdk9MHL9wQCVfW-CB6JGz-Pe9fDq6et9QpLK4xVejIR8PiJ",
  "9wIXRwEnavjRiYwPaqrhT1cjRUjiaMknodqgKjykCQgVTEONtzI1LF2T8dCK_8MH4Dz3cM22QQ7PDOLnW8Tt9s5lpi98eg",
  "31qVg-nVoeMzWpibsJjk4xmog8HJz7Wv91_kziOPT4pg0ygulBcbm60YQyWR18yLCFBUoQcLpF0b4yFoLpAbJf5-Pjs1_i",
  "8l9_3kikxVWj4khQu-IcabRbHs5-KVvS_8NLCosLOEP8wl4PB5fJ9DOOrSQ6hRMh6QDx_rl0hxqpvFuEUXHfVbWbGCS4IW",
  "xt0XzdO9T5jeVktX3DGYu8gTRpXRyfhgL0fj8dYz8XEsRrEd-bc64b1noaKpy5XJT--efv7xf7UilAs0pD7eXhc9IkJmnB",
  "CieNndSVj23Wy5FGMsDOQuUSx-kRqdLcVXDL3KnVYHdjNSiDHMfnskLysU09VOyCM8d67NaiFFt3qpEAE8MQw9zBJE5Ms6",
  "rJRMuqGz_JJsuuyjSrAAuiaQDVcOoSz6khi5dnVTkbjaah8iIOHq0Y7peF_teHmrg4X_FcZtJqO9IqK5geK3ttXyl7blWM",
  "W_o0Mikgr6-v6Ag3PPTNk-mJJ1c2oskBnKY6KzJgQd7Jasby3YtcEr9zzmo-HGhQhPfzxVRLz6814jWJ3n_5P57OpreN64",
  "zC6wjwf7jmxjJCUYGzs0gFttJAShzbsOMERVMIl-RQGpucIeYOJdFG_kuz7CKLojtv9cf6PueM21UVS-TM_Xg_z3vOMUEd",
  "sY35HAngwwpf1xtODWnEPLZRedwEnn-owSPfRNaR1-rbMrHO41LFhy1kaf3e5-tprQO9f-FOb066CudVN9cd7eoPcZLNhz",
  "gZ6B5F_je0vreIQMZ1UiWtS7afiRpnpHQRXaDxSFE0LknnmEi98ZToemzQLq07WdrwcXX_kyP_iIXbpm7N15gGesDBT5iS",
  "kNIo1dDRY4TUDlUMWNPcxqKYVW146PFrowZiGdEYTNTEZ6Nkf1Y3KgZM3cYws82vp9Pfj8MkUgKiI-1gvUDI2kV4KycsjZ",
  "VcHs7So_iZcqhka7s-VsJcME-fdXkekRxWON594XIR7GK8rbqAR2YMHMdRwm_Avhz_hsuMq3a2ZuUaqNQoxl3J37p4K1Z8",
  "zMzQi7THi1eHi_vMGabJq8qp01atBFW_iD3na1PqJSEr4lWUFUy25ekofZesHNPHcaLVBWV7bKr5FotI9uPJ0BChjLHk3B",
  "BWKEqID5-NcETuSYHzeJ7nkc807o8NZkblBnqwvVpwz4rCVzPRFW5f3XF1qROSdsf5OYdxuG2eDJXLxYLowiShCTp-WqcO",
  "0x5LRe9wizWLj3dNNq7Zj7v1Ppbx6zQiwqXBSdk1ojWKTnEelQlT6ktSO3309aNwh46IkznUcDY8jnn2CuLK7Ao97zwQga",
  "apjxTBlpqQ_OYhlG1xETgukWLEpUUSepLUV5OAiSg64__vj31_51eKfMIxsOEX1ryQ2EiEfg4Pnmzv0rfbu_dSM5lIFSll",
  "M6hOIlEhYvF5PpqpJnfC-cQ1iTB24s9McpFpZu7WMbkOynQmBjTBFEUyAEjIYaZczFm6FIFgZ27-g4QTbsWySkS98nnBPz",
  "ZUfBNlD5Ycd-X-4a3DittrVWHpdcUtnnen6H26lpPcIZ7JSUUEsSO3r-qi-lnWFqVny03dqdx7Vy1PzH6bfjZG6TXnepyw",
  "JF3dEkvRQuzkYOO-Q504G0n2BCIoN4OJfrPeREZW0a-MsVQPUizWhsgfXawEp1ncyV1fwi6V1T4-diUSwYhfwva0StJMlF",
  "Z0-BoKZnH9N4RNNFZqBYnLWkXtH2jORvKqytyhyTOpR27jY4zzSBwGnALZBC1X-s5lMcAMILP6QiZ3RKIWWxVZcvjmvbkn",
  "y7Hd6FnXxgPnZL5HJBh4sV7poAxE7EMlT_f4E9ixsHEKsNZO9RCrCo_2g_438p0eSeIhJ4Y82n0hkkpoxSCi0bgZ3G1swX",
  "ZzSTB0lbBshGJxIh2mnQr8GC9WSWH3pVsGdWM64FaL8RuUrI_KS7dVRTKZG7UTyAPkHcNmEbSZrndPZCV5XHk883J-IuyH",
  "CVAcqnEHhQyZuPafxBR2KN2m0ekODv3RaXpLQZmixY1cQHjf8FbhP2P_CH0hPA5jEy_trlxKbkdQMoljdTj6_tXPZ60Bh7",
  "rn4CKU5qSfDNswpyBNZOGJWtzvrUPoE4dp_XIw1LIhzSYSKmoeTPUQD6vy5dPzSF40PLj4fZfPgXBFftv2pgoTV5jz4idX",
  "qsVszwwhmQw81KZ9FVjhmgYsfUdAh9i6hT5Fvo1ORTKEC-xAIVW4Fpkh-CxeIGyDsXCzuet8JFLhMWezRFll6uN6ILpRel",
  "lq1eoyDuSjE8XobYNjD_c5cQ2RHhaZTZzfVduZIDaZqzBeWzpjrW2kSf8m2EEdMSG0zlytL2YC5qHjbTikcaOJsmJHbe7Z",
  "O44w56SON3L_LxYWUkbOboR_ojAEeqIwzW2ry7nDg4iDkXq4cLBuCvBxTurh8OexFC_F_5ekAFJ1qL5Dm81H5y-8uLet6u",
  "aHJjF2VCFTE-965Av4WryXWlqFFR1b5Szp0vzXY-EsBDut2-WYmrv7t66rCTio5vqA8YS7ksB1_8xAlF59w_0HxxpywQ8O",
  "uE2xKxnoVds0O0hL12cGOKrYz0CRTmvbKZCgahOLGr8-jv-46KRXZoq8I-Oay6sFrTLEGkjSfAMSla_4g-9ddago6hGxlG",
  "v6aui0rencrV1mih9ndS_MCgCrG-yEoaVyKAO5YfGhO3CSNqlJHcMPOvWy37zMCdGxCIY-QHlvKNSYiDpe7NIHVGJh6I-w",
  "AmOj7cLBamHmungbaciF-xQPfHKPL3HP5CYKsbE5lJPPWVE00e1Nkl6Sm0SvjV8KI8PWGUO-XEn1kMY6t0Nt-LoBpReBCg",
  "6aiplL4sgZsVhQ_Ebm48a0MEHrtRT2UjZ5ZzLj94SPxoO9yIoraAnv-vNYwDgFyq7ne9prznrohi1rEUfPBWPaK_VZZ_ux",
  "Iq7LvnDHrjgeVF-brlrtyhde6TR795a_ees2mWkxi3q0cRy1AhOsRXyfO-1j5CDpw-7EF6nrtF47eDq2Xbm8NC_ree7C5C",
  "2PpblkG6eYkuoqWC8AF9DMR3T4YR-bl98xAbes1NB8cPCsh_k3q4W9s67WfoxO9JpkK34anQ4smFJbTDnCdarhcXpYWDHY",
  "x-YNgG0ZgQQravp0YPwRetC89FiXEe9FdZRM7Tf0pyt2fJF1Js7hWsYSCbQw8Ep-8qEFR0fNYyVsKguCRnm8XzzZxt8OIO",
  "kWLE7fMeOIyFasrHwpD7ChcM3at927AtJlincisIaXti5HRoldu7IHHWZ8C9mnNBgrGgjIsVHf7ZXL4LXJl9TFKLXBZSu7",
  "hOe7VQRXrek5pyq-h73u2P_2zC0DZTl1Yw7QATwu9xmBd2S3NxHsmx0__YGIFh22xAdJUSevaZ01wH-xg8f9DtlHyGxphL",
  "-Nq7cR_pc24FGa5nTdWW4hnHV6-eqXZDr9sfYkh_HrkjnzKdP39rBKJR8c2NlPrn079IR0wWraMyMu5-i0nUf8BH0xHe12",
  "hHtY1XLssUZ_A6wViZjY3OtGmTy2OY5-hkS-r35Ezavq_k7t_WEinIrVBoIg-C92OhWj9OJJCTS-MxjV8xKDu07zWtqVcr",
  "CzUSyG3qhXXv1G4xZjM0AnE2gn41FupQMbp5O6SU5b16xaG_gjb-CJoUcmU09mRTa-orrd2hdLoCmJ9jxeOifhKQ5rObeh",
  "sHDi3nfVfNwDTlJhAnvF8fnkthBPmbf7eAzuFZUdVdWp2R9IaA0fqFr677tvvvn2LKtmmLKQDl99ZbSqbmZY0unbszcXr3",
  "95YwCL2daPBTpv757vL5aHozsNgJbxrduc8SxFh3KV4paZlj85QC3pHQVd9Q6vs-jIY4-0xfM99No01NzocGK7PDYRv-W5",
  "mpt2TYwS30CXL_vCzt2-v3AbXhXjq5aGfTyor1EyjmzqmkU-gRZ6emwa9CJ8Ve4dOXgEoKuSOcB1v4-vc1LOvjW69hx_NK",
  "NCxjozFx2RwK9ZkL_ZP_55crjamZu8HJ-qHE7pLTzqhddF92H60A2gkgwJeV7V74WsCid4_6-lYfuayK52YVA_hI2-ylW9",
  "jhQljGP87MJbJtXK7yumH-L7e4vAbBgNXrTb-z-vpEYZKQcgaQmqtIt-hwTVThBhPoLjr1_I1nJgqL38fyI-0_u8_zf4iU",
  "Wdi_8te4aq9Tg-LO2M-xp3kZv7z_F3bWb2e8mUMFjdTTzEHNFHPJtH4lsrSUU-_F45kWLi63aYN9dU0bKFTv0KjKhENxgl",
  "R8IPdUbi_BvDVXnO9v4zUsytfEdbPNrUekjIEk6aOukgoEfWqW7jgVBJ2mjGvfXEeKlcDJKsFnMvsVQd2Wd1_5-2F0wHya",
  "hlfdVKkmKpfYgPU2mgztnFuFgJpqeudhTwOxMAlIFbgJ_qSmk-gkQMcoXxu_-r3yGk1KDLxNQ5CkiY3vftSn4la9qKfhv_",
  "loWQCyOtCfcSCwYYOp6-vv9vI9hUr3nZeEAP5VvyoKD6s4C9YLHgNyP3iVfvJNwl_VxQiYj6dPd_kut09cBMUDbDvjOl_1",
  "fEeXFumuwlFylDPAvqQjXaVhsmx7E4958bSYS1EgTbIBMWy5rFCCC8P1gLqWVvLNtMLka3nmY6PxPkg8uKO5kjjhrGkBDN",
  "VAeQThdFF2kUd2iIWiXgi5JNdeexG1XkYz8oomIl2apenf0lEJz9MIhYhldeD4N05eOR0A5Ph7GbiBNWzN5UHl7o0cdi7B",
  "7G9V72zSMjZZjWWRK_8ocC7up9a81tUX-i8AiKjPPMZBVQdOPI8prknujToKOqG2a5InosGqAjl4_TsUa-mVh_mN2RscOd",
  "DrN0RcMEBBrNXuNKeV6ErtSMHn3dG6txRzKfP4IdE4ICfKHb9Kp6xhff2Lal6dBLJgEHm0H7ASBa317JFA5DOcu51IPgo7",
  "9VpjHsmyptFPLKMJ30YthnV3eYm_R8m1Sv-f6wt2AkNnEDAc58GSyww17v1Vhngkbqrh3XIuMMViz3DdMs_2PqanbbuM7o",
  "OgT6DhfTIraAinICFEglikCRpEiBFC3SAlkGIw5FjT3iELwjWRS6SGynMOIgXfUF0kXqtGrlym7s1PGGfQBrp7xNv_MzTg",
  "EbEkVy5s7Mvd_9fs4535TpW6JC2ZmGGPsONCOMDWIVyNOpGDtBm0huF2TLlewgRfqT2Z15HqaISvSGoqFDWTyxnilWqYRS",
  "jBdojRJ_YJ6R_FM83ZincPDj-2F22DkQ8T7cInZpXbLF5SGeP6CmyM7B68c8IBY_5mbPbkQSII7coYqI-cjrimt2fW5F-F",
  "Y8QvU2mFa74oEgt3kdeQ3VUBBVqDcC5vMRpn5FlMOqrJcTdI9VqorzjagyMGeAjDR7KhtoXh20magJAHYwfoBcEYaViwX2",
  "gQOTOtUbZjwKo3TENJkIA0WylW5kRMO7MAnROfgVYer78aEpiacz6fIDjo0c86QTUizOO6s39-r5lgln_TrUdCO_SM6Ixx",
  "3rBZtNTICTuPdIEBHvhqajFS4Sy0FN3iYT3ppfe50AMMAFxh4n85kTfGOj8avt1BNPO7ZjB4IfC-h3vf1QV4AlMuvkf6KT",
  "1qw7EPc55jnTiASi0o6CV4u0hYi6kxXbxUPeHgs1PsnGpPtT21XOT-YqDtD4AHcSmWOt_7bBgxY7rMK8jRXbKSFTJCGk0b",
  "R4xaKNqUJZHXn6ribNCgAQrFfVGsPOAZG3AFcuotQOpoPzo2JndCK6ZKd_InjT0CikyXgUDueoAweG9khUrykaOjPVxtGC",
  "4m3ULZsXxrW_FzcPnpm51NkE7YxkJrKUgkzgOR62sOc9bxwJgdhFpyqOFWN4YwiFRH2tyw_Fm0nJVMX3bTekMTTpuFmza4",
  "fsGqIe-M1O9A3M8c30z8NDJFcKrf3mojupM0HcOubgG6PjgbOkw52534kRSHvxQW__xZOpTNvOqOvAHuzVYfdQX0FXsOlM",
  "WKsa6CVCuQFVYPnX-8yKBZ2Yd7-Vo9YQMALCOf03ra6YW5X6o2yNzfPOpJcMUjJkLbt73apnvhlBXqlXF9a_UKgAh8LOxy",
  "qLCDTsV5wN16h5E_MtnAMh8JiuHzMEjifDlu38B4sZHg8eetw0o9y23hd1I6mPVDEukvovpetad-jZiPM5Kzvg_r2cIF0Z",
  "N6sutX_gIdS0kzvm2cHlRt8_eg1Y10CFAKURYR9MucnG6h2ynX4sqlKmSgFzUmF_dT1HDSpZIzNHjDkAiIr7MOOk-Dlqas",
  "5r0pri0bFvN4l3SFxNpiNl9saaf8gvChYqlMN0Awlc7HsGSqdDtT7sJogw49zGkW1z_cV-bKRA0dSnnGFOI6YNh40mW1Xq",
  "mzMYcLHFwmH340O0c59zXlhFIBs2z3QCbBL2SbB9nFFcYS_Gfn_zqCLj0RTsIcrQOE7yAhbHHR33CJIvEDaVESap0Rtbu3",
  "WkZ3D_RA-kkvvUMCktWtUEqyRRHybTTbl_m0USc9XAKJIIYf4M3XOQIPYjgVJThYu0M7EgzUqG4hQdQ7k_zWo7XWMN8JrA",
  "QNd4tX1XONhZYtHAKSN3I2lf3V_9MmIY7PlMAscT6lk8RkFn02fnRDUQ4H_M-fEhCM3lYU_sWn5kdQzZgcnK-gFIVHBl7z",
  "fTE_iVb9tPbsrbS84njXesvpPscMXnnf6PMov1FEErpvHYchYRph8CCjO3UERiHy_sAOIn5i0nBbbsAEvOAnZn2R3NTEza",
  "LQrOw3hxG9aZuAwa2oodwWL9qOpZJNvRCtY1i_ZHu_g6ukXXix2w5d-JayscpSN2QJ9q4dmKhLmFGSRkC2iR4YGr6yPtHh",
  "4XUrfWecikord1Nqxx8Jo1RSzEEZtHrI6ws0gpwb6BrkofmLUHdmxkilIsFK6DBQK93ULwnXcNkrGfmNU9s0jTpdnhlXOc",
  "q8MF0N8QLUEWDwEb-CneX0bs5ocNRsDebBGRIfqeIceSlF_a7cVTZD6K8dAAZNk9qIDUYsIdNTNsUUOXoTz-yhT2ZPJsfl",
  "f8R3Q5wjzMv7GdLwyS13JjX8sl8qJWPMml_SByJGOA79hvYoAaFzBMIruviGho9g1TSuGSHdQRtVijI5ExtFcj0kcct2K1",
  "lHx_2UNUw5A0lRUDS5HXn4w9zgYKJ_PIpptvvfWzn2--UYA5gVjSwfsy9Vod7Ny4fcMVhA4xEuayBUHypjlITAHEfTTWJz",
  "GM-2G_j2mDpDjYLqy3FLZvQ-8XlanKeQZGY8Sjg8EvCFBADyTYMSaPRhABmLTVK7xmMUZ2CfuSBWYA3O5gaG7G5EYSjaDs",
  "uA6D2IcQJyGXM-w47KjZillkycFrIu9gXkhtx9n4na4VMmO0RRz1uL3VIB9QmvyGfBxZ3TdMNbUCQv7A89baF1W6fjsM3U",
  "EaJl0f_BDYMfpTP5Ctl5ZYSZ5PyQSLwoIVyfoqSNLQP9yxJMGOyVk9GkJ2rWx-6vnXI-iHok4UEV2QcjN2eg8ogUlYd6De",
  "oE3RHcR8jAupGNDk6etwveN0EdMRlsfmtXF-rjaOX8IoBpP2aJrEYZVVa-pLgTxG-DnNyOVwcwlHIxdRPoJkzCL_wdIh2e",
  "IR_bRMZnYmtt2ew79XnXO0p_xkYzpUssFNZs2bv5xHyqWmXmfBSiygBYaNFygLfpXi-2a1YTGKrjwhtQI0ELzvcQ-sOZFh",
  "5Y_WX2f1Zv59mxyoan79aBBuE_qrrsJqxi2sM6Pq8KP3Y5KvgNBsl011DeimpgJTw49rt5fHcbx9uDjZAeh7M5mXbdGf7O",
  "upjkv567FvHC7YBVn5AZR5SKoSfbw3kzd4Hs5voaNHJlS-3ed3kEDZr08GXije3tLIBt8yGZn1McDmJQeTkh0ruzeJFPOw",
  "2yz_QNrAajA9F5GVMMwj6f7Mera7YB3xHcsopbjz4ROM5Qehjqv-e1g09I9ELlVeAkPVtMy2W0N17fwVe5PG_V8hKOjfj3",
  "MX1kvaYJWkzsmqHpn3KZ6TpQcwbyJGmSPoDWMfM1LYoF1YOviIN0tUfFEFgj5KtoZKMZ6VhzqhaMsJ1RKsN8-nhKI60a-w",
  "QswrLbbfWJykoT9gtko21vjNpjxdwbLOkWeLG8T7S_4LzUBBbyf2cwG1RlsON_3-9ptbTvRZOyw5bk2qbBfJgjcuR4elMI",
  "zMIjKD62oFt3FdzeA2DsK56fKturbfuGwP11_O_3u3Wz9f3lp_NYUCHJTdmCJdP5wTJRZupZP47t2NnunMhOc5MsuY4PTD",
  "6tbPsXW2v18X5azdqxEgOY2fneBGFz04ViXsEPZPpGyO1g_j-PS38f0VFVJ1G9rF-luE5bHWcwvdUPkX2HdpJ5A3bZB2YI",
  "_EOfJRSEZ3yHozvkBmA1q0zpdhIF0do3NBIdPfWl8wzojINJwpZuRzebh-CMf3mNmSMAxQH6ooV7pgoEbCark0CbNdgLAG",
  "ZgjOG9fDogXSoF7gLjZkfg9auuuLZRWhySmqKO1p2RdGBMBlF9F4sFL4wfjKJnYcgJ9UMpE5jufkvC87a-Jzfl26aJB9_0",
  "pqx9bHbYkXMUZqGsd14QV1UVWHQBwPzZm-WBF-IZEnwHW0SLOXuInzukReEudziSNs9YSKumWMumEH7Jrv7yPLgr8zAw-_",
  "po83mCrKIhjwuaN6k_dKpremvSKX4rBy6XxMqywNXiOy1PyDg3dzfXGMgoHyb13brR9O4GDE-zchlMye8jF-laNKhK5HCJ",
  "9QAMEAxE4FeSHu3voMRYJj3h_p2Pl7mEes7CDv2mI-U5wD3ZGnpJ7CJuCXmJ_riwhgWmR6eN9IL0JTeKwyxFdS5w2LxPvE",
  "5xH3qV3o_rOOUOP89HdbkCmP4zjoBonjAaxS79VL5wVL-jVcVwTIlqWmaXxqfYZEZLW-AI3S-hhYd6yoQJN6fdai9D2B5k",
  "2sXNjd8HvgL0eAgPuzh0wMlJ0AOyd5P_bDUs8fcRfuI5uZL2el6NktnTPMLuY7gT7U83Al5yyCg2PqDFMG7BQy0pCM6pjv",
  "JvtPhSagU9ZnUAemUvaUy3d2FJ8_xtdiXLFMoXjcq_vmuKbYG05Zn1k_KlEfAdzZBSjl26bcCdgZ1fXFLMpkrMtYvIBL6z",
  "oAOZL-syi_U9e6Yh7o_pRW3z1_-eTyEyjZ4uflncvPX-kAx0-8tprw85d_1udeKfdCjxdqutQZvvzUn3vGY0JbWMd5qvNA",
  "-Zaf9_Hiv94_p9LwozgORvM0PsHX-CwVe19Qj_dZjOSeVYi_k6YxVYFfxHj08xnOdPkxxhyvcH7pHz_X-5dfcOz3ff6nUA",
  "e2avJjawBLtffcOr_nHPsjnpO6w_ENKAL_CYq-eMWrvgPF5Tg2Ro7r-w-Pge8_4ffiujy-GI8-Qw1ljJ_jwPjwFyog4zwP",
  "Lv_I-_QAT4OjgH7w4xi3lJOf8GiPeZ26T_-K3-_7fj3n83ka13Zuxea7VEE-j29RrTh-e8ErPvdzefDyG-ozf0G94gs8J6",
  "oeX_j-PfOo71Bd-rv4jL7_wtd77p-YPR_zjj6NY3Fe8G-fY95wHkkpmprNMd6n1IG9Jz3Yq6-hzvr9p9SFlWLsQ_79nIqo",
  "96h--_fY7T-Tuu3Vl1LXhQcALVeqxT75_hNrvv6gQotvfhbv3o-_PIYGa7wvLV1pzn7Fb9-HzuzVX-Ldv8UR_0HFXf0_o3",
  "osjnKPGr33odV69e-rb6--iTHzuFYAvst3cH4c9Z9UAL4Xn_qrx3_36vH_iDqzHimSKwo3O9QMs-9rup4aCbrHfoSipKZh",
  "ZhjLeCSwefBTVmdUVZqsRRlZXV1j-QHLWLL_xkhuM7IHeRGWn_0n7F9j33POvQ2IoZnuyi0iI27ce84XpMuCFfwEjF0n0R",
  "6Dq4vrsu_9EYxeXKn9_U-SZcGLJU1X14-rtisWxfevduVP_H4fg2D739-QzfuEx_ubU3mfgpBrfz9zYu0f-ERBwxXj-ClI",
  "svgsabv45J_xPOxnvyWj-PdOED7muf9iT-hffA7P7V__8HP83T7zWz1PcHz56Wdk7x6Le2tnexocXtJ5n4uZzDZ9rPM7q_",
  "c7-_7j_zzncfH0vuezRbv8ya_vWN8nnRgcY3J6yd_FM3-iqNBa61t_vs_IbD72Nv0d7of85u_YMk_IH_4eX6ldtvzXKf99",
  "2n-f9d9bp06fOXvu_IUL58-dPXP61NbFS72XXr78yquvvnL55Zd6ly6-9vobb7719jvvvvvO22-9-cbrr733_gcffvTxJ5",
  "9--snHH334wfvv_c9-xTnw9Sn7-7T_OeV_zvB78U__6qL_3uJFnbFLObd1futC5LWUZYUDJSrk2j5BueLZDA6gjU0-dYMs",
  "C-FKCNxvP7i9e0QGEyVltlCATRN-T-x0kLrpC3d2apXzIlhqxGncVnK-rEfyGiLZth8LZltnMOc8JJoDQXy_cLeOzdcrlW",
  "VYtIREb-FpLaUt6maj9ZyYvQ1yQskhFMDmwyEIJpjXmIv4IosrDBps165Y6IfohRX8flSilnDqwyYEEbkuw2vITlazFSDc",
  "S8wUnsgn0hEEHSD8IqfNSppWLpd7VGfj8yhpELx1q16wbrT5dQgvo_yWqWnDAnrPF5Y5lBS5wkIWuexckhLTvSiOOmnAIh",
  "jqrCyYoG4Bkn5b2DbMyDoNa7Ar1ifQhco92mlY1LSrtRazy0D5F_8Hh5J06ptUxSkqIuvm8I3ZvVBT101tzTy3rnPPi2nF",
  "ztiuLG9fuYH4nbczqydqr3KOoOYgEH22ZBQxhVDXTDcN0HxYfh4mKdmw_EcyBYVHlA5QGNwon1ifZMrBnbTeg9y0atR1np",
  "FVg59J3GXdwrW9Jh0xdV8ulXmrQoiSqdtGasrpaNaRxmPkKlHcUpp9SAcrvi9xsX2xG4lG2HtYfHC17c3-KFqZlbs1MH_0",
  "zdjPQMr57-Oyzl9ax96sFwvU70qtuF2Ik-0FIeCnRzcDTn_bYlmsvWGRo4qh2rflB800YMbhwPmW63yQ-BuvcMBhz1Pssb",
  "QM3hFEBolYsYJZIdjeucwba1d71wIn5ByWsKuqUtELyUOmywaN6_WFshH8lthA1wG43aK_66L8VN2J12oJB9TdebeN7VSY",
  "VF7N3U9q5-Il91SmtMu4Z52F2sHEwivw1SLppapbLwoQG7JMMZ20gnSuO-q4P6SHfF7ClqM6Z3WLimW6oluV6DsWBGGTx5",
  "oBSWJySOEtjLvJd7CYGtkJBi6WHEah3D6bV1Tohh_1hgzhdpwvkvcELIVY_rVlkh2cdfcZjVc5hFE79ZxaAuLPpAHaj_HZ",
  "xUurHCob4lwA_0uhd8o0RqA55xKUwzA7EWiTvUbYXVrlR5A3s1yzcSRcs4G7k20aBeIbUgq4REnlNeGybdywcZ3cFHyAvb",
  "xmxcqOLA4nkAx425CiJesJtwpB4XK6AIoyzezhLVOIgzJVTZBRXIl8M5B8PLIKcuRJzRYHKMXR9M_ud9RpuMgrrwp6dh1l",
  "fJUh88kc4OeCfbCu2KPsmuHuGAWn3AZuG-KUxfQqdRXyqhz1815eZVXcvYJRfJaXdYuZq4laeG9WA9thKzVVye2JOV0D-W",
  "S4Zq0DCWFmF-8Jr1-S1paAHXcMM8ZeiZwqDPocsR2qRXqtGowCCNyg4NQo6YMeE6aVFab-rzxZWFBpT6SDp1-rsplgpp3O",
  "QuCUoUkh3Fna8HlibWTVSqyF1yCqLyqjSw_jljQK-1R52g6piKRpChgEz7_CrOTBtAi1SHUt6qKfp1ELqmERBdwiKonXKX",
  "nAYGcvIGvdmHzhoEMk0yBTcbOvnnkAkmupCWjPBXOF4iHQDY7cavwlHsaP8Z-oGofKpphRoGBTCeU7hLOOx-pskZm85Cl2",
  "cjw4He9Yn3VYGg22JUyKC3vs6-kidIqeGMryqdRYpKtUyVqkVJDoAIcY0yrRfmtIAjwhu-OAlm1H2UEJgsqFXSHeMyIXTz",
  "RP-Ammn6IKVwEKzIDjWgyRaY42ghC-8b7hEjdoFIaCTkXRvHC2bKrueTq4iNlqMIa4AZHVXVcAFsViPmpWrcV1K1aXeYP1",
  "UiyQTBZZ8RN7fnTRlKOFwgyn-7q_ELL1hEeA8EJIaRu15oAfUOVXHZJGmZdHLvw_8IGxsqD0Zt_imb4r7LhFhaC2RYgjfZ",
  "eLRRtqsezlvlTdh3oPd1hWFQtS29FHCk_RJ1pbyELyoBTsaLsPDO_3Y3gHu8geCzfN6kh3C6pb5dKuNn-FtDpuD9wDGlU0",
  "fIGt5eVU98TZ1ULwjMSS3cqoBjyEUpAJYrU1idTgcBzdcJDjNAF-DwIT5aKrNqpvKQp8lU0T5VzcBh-aULuroQPlLgS4Hj",
  "mR7Y247bKejY-93FgBwCMLzASwtBCdkjRqnqTNyjJ2wZ3vKt6dGE4HY6rxgMrA2w0gFPDjmWApAvJrGO_hD7IpqAjVDFU5",
  "AJ5wxkJAjoivlLBUj7BYzZ0BaO_pI4I2-oXj66LYlYRnIVN6lkieCt3SZoSRE6WOsnD2OVsHvRIjwLwbDnbvLdq1TbIIma",
  "kuYjPZEOe6WqxO2u1QUiCehzJ74wxgwJk6RcmUblHd4NPNju-WgAFfq5vWOtYhGw4KCrWyLRnoZZSXErh6ATvhYB5JplNq",
  "ZwV7eTlr2c_svZgCqBTC9nwuBdyrW8y71snoc4MvU1SKwwTDOR5wclhD3ZH14pUtzGCCxgJ70XCIq7ATR7tYkw7F0R22LC",
  "EmrL-F_jbPFg2QKSlTg29jGGNRRuLAa9JhSfH51KJl2uXIW0g-oBGNvsQoTNoo9Ag0ENG1JQmvHGQggLCoj1bm2ILjzCO8",
  "lF7TDnYn5mUC1NDxub1fVhedcRHxtcTlZUNIOtofY-YBIjRbqAI63CKkkT5CaCvIZX7wi30yIPtDV2Hcd3FZ4ZQFGyoT5m",
  "v71E5xlwwl1Nr00GR46FCClZRwRxooiaIoSswOxW4212KBqpiNwX_nYBxr_2uS2Yw9yEatEA9hkrp9ukm56kd7DXZVWBzS",
  "AjVzs3MtJKci6izSAENHaIEZqnG8n3ekHKK8J1lSndYPaw_eLP7TnYrHYHME7pa0j5_boPfNysbSbQEcmg1jMiynVb7Duk",
  "56TNB7Dm1YK0DUO1S3eVg_qpforYouKC4RUm2jqGMNo4hdPmb6qEO7gAzxoVjNZccCGmcZ0pFaWDob4X3c7c64jmjeSp4r",
  "xGPJeYHDKIneZTyGW3gg7CnNrhyk3KA0yzRzYcL4HKOOTbYEU3A2Z4yNcQope14YnooQuei1aNMHEfbI3oCaIgZh9J65jf",
  "sTKIa8oG6DwxIeMGgiSXMnEriR81NkcID-Y17HFVeA96krYtwo3WLpVBXg3VUEL8T1BE7DfpqDflk4A7zBOJaJS2JqZjH-",
  "qXfawtFH9i5zfVdrH6cZJg4Lcxu-55SvZIYlvhsKeRhk2nPjAOtLvwotpqzUpPRNdC7f0gmFWxYkbT04m0hQQ9YckF2Iv8",
  "GeTNp_hh-PIjlm8q6cLbHBBsdeNMoXLbG8k5KrJBibtfsGgCRVUcI1iBZbzInARcPhUw-xRnMHOGNR6ZEfTBmft7FTFBRI",
  "MCZDKu8S2iwOm31qP2K_uK_KodUJ72Iisn8QykZXtl3u-TLuAAo5TSUhShiWNOrb10URWzy4zhQ6kDFjpGshYXfkIlBSG1",
  "FQyN5Z2KNjaIpJU8xhjIxym4MC0NLqmH8WKwVfAdk4P6EDrUvkAOAVhUNRkyQGdRzcWelXQwDSH_q5KB1XWi8J-mivMDe0",
  "4JgAtYGYjFhVWpSLOjBi2P0pEGA1qB1yDlhPpcIPjLZc42VG0V733guZgnJoBEh4mo4AmdICDOaZmIUgYuIQC3Bw0-2AoD",
  "A-wm4GeKdhDokNByzKBd4MIvcypDMDiyMaMB50hTNw9JDAtUGm13N0sbP0uoVsOUheuW8iD8NBFJGwS7u1VdRqybZA6Q_N",
  "xB1tEXeXLtxraPn1YQckrLXvscVw1ylV-9ayo1HCI_BxI1wieY2siMWF88hUhJX2Oll6I-Q3hEa3TzjAvvghAiokBYceaT",
  "UbMWzRJzHyY9oOAXcRjja6jHmpkXcpxKoCyybZuIKnmiM1ZGNWuzeRQFppHxHkl1OL1MJLYn12ApVRmDCuji12Y4qJAQOi",
  "j9ApDQCh4jCId4d72AlYgIiRAcOjBDOABdHIKCJuwYAf2Z6r4hzZDd7nFl-aB5E0t5iETi5EwDGJh3jaIhm1wLBzghNs0H",
  "ohQoCbY01UPYh4FVA9DpXRKDdFs4CkGFM_ghxHpoK2kin1P3Ea2Ck8SxQ56s2JKPeAQyYghp4isgdVzelvR8ORnlWE1S-a",
  "-0f02OM4ZfFiFzLl2Xx1vGiFkYI6BnBD6-BFlBtAM6FEq6e4rquGijcKoq-pku1ZbHHg0QXIp_CVRxKsA-QO2ywoGMDEFn",
  "N2iKQGAyc3DOXPtmsInc48hNbDmG0-I-CCw7t79K4y8Q0HMydxrmosICcuV7t3YdRyQ-VV5qOFaZR0uogc7HXHXjebfU6f",
  "NlPggMLvwt2OZ4Tux6kW32L4LYmgCOwiY4DDk0-aG-n2WNFjz5L_M3Vtu21cV_Q5BPwPA-YhSmHLl75FtAFX7gWFnQi1gz",
  "4WQ3IYTTvkEByObQotILn1tXKquLKVOkpsFZSsOhKtOIkrKYn1oOQ__EBSTNH-Q89ae-8jA4ZB8TLnzJlz2Ze11xI3RMmm",
  "p6MLbqnkdZIFg-rKrfIxi4vVIVyQpe2waWWYYaBP7BySA7ii0Efz9FRJChFscV0Eq_IfcRyxGF0MKtcYtqdiQHPD2SSw8j",
  "AaimeNfUVRpuQPldRinoEVB4XkRpBSIzABuUkZshqeuhEKuVRO07jNxQpsXGDge1sXgbDRuBki8HjFNdLcZSwc-y4nAHp4",
  "xALsp5Uoc7waiV0dGeo8kGACdgl3HWrhlI5rxYkOqsxwEJNErMFDH9zSl99TKOJXly6cJy0EfNfOO8rdPTmN4KDukDxMyE",
  "SGDJ65A8ExQ6_qQe9cX6vfQ8kNS2tCO5uIjUNxdc2SFAnKtqIfVnJ3jLXzy_EPX34_7_6EYPb3d_XFq52_vNpeerX9z-HS",
  "6nB5Y_T0MwHsDTaXBLHnXvzv_vJ_vt7874Ov-tu7_W9m-zu3Rr2Vg94StOo3Fke9Lfxw_cPR5w8Gd2eHy3cHd1YG_1jv79",
  "4bzS0efPfR8NbeYHmrv_ukv_dFf2fhxz-vD27uHty-ddB9Ofzw3mhlfri27N4cLXw3fPztaO-T_vbscHN1uPis_83Hg96n",
  "Pz6dHz2bO3g8N3iyOPjo4_63D4f3t4Z3e4Pdvw9f3Bp9tTOavT6489ng-sag1x311ke93cH87vDfXwyWvxxsXxve2xwuvn",
  "T9Gcwv9Xc33DuD7pPB5trB4qPRizvDT1fd_wfudhZu4OJ7K8O5Z67PBifM3Nzb33Q-QwrTDRM5LIeAbSNDkhMEF7UUA1b1",
  "IEFnXyUCc4Kthbytm-Hq1LglnRPhVd7fRU6X1eeCFqJSO1kCxLtBMFbQgwo_jaupGW-ty-ZkeSQhgFcA9ZEmhWCoBoxZ1q",
  "bLuXwIZ_S4yCzWAFcqldGE3lVywu-k1nl_M4zr-yuwLwwlG7YMXtVizgVIS5Tbs1Fnxu3_q4YqfUhkKSZLQGRSTCtNECeH",
  "mbqSQKte68_dpqsAqkwjZnHotn-kKsJMa7bTTEFZplrrRt51Zn-l0pa6EgIjdQxjRZK5dzDKHFUsHHbV7kJR3oSrEcYXJl",
  "r3QuYF9wa4EMhaCS89BItTA3qGjRnX_WjGAsjOy084W0KD8WVqlmEKtICsbACJt8JMBiC5xIihz5wkzVB_ZWjBzGCSNvJp",
  "ZqLa1yiJvaeS2xAdv0ZhbBEF3-b_q_z0a360xa_dNCVyESmfe9X9RD_C9zf4_xoVu3fsOqJKvsMv_82uM8tuSKNr7Ma6_b",
  "xbjcFUkVYylQBHl7ZerV6jfvk6v9Pj6y5ff86fb1EcfZtvdq1Lz022XFq_YU1smWr4C_vI9eQB33nO5qRL960tESnfoJ76",
  "rHYVLx7yLubZoozYc1Mof0CB89umU77Gf13RWecVZBBemN75df52iY1uWitLJvcuI7n1ml67PLjbJhLPB6fj7AZqTmXO8d",
  "EjHW3c4F8pxH7fBuG6tbVkwu1djoZXW39kA3WNX5b-LFijPRsx6flLe-juzzumUv_Q2lqwIZILiiT8Ht-U0X7OsZL5sGEP",
  "Wm5H5upLG9VZDsIGu7fO3srPb1rHbuB91ZWX-SxzVZ7ObfZ202Tst-wulnWq6Dj39L7w6VP-v2w3uGptzbL_O6ZqL518bH",
  "_Kl-d4y7KCunzTz5audW-NfZbXT7XD6PM8b-GF9WfNptYza1S6-owPlw1pn2eVvwMCX5CPYbGLZdePFCYNxxL8PrwcSsmi",
  "B7BQmU3YLEpNw-YwsUbJNdhAot1QCu1TYZTEFqa6NKdOnMSVL8qVDQSUgS2iWmnl9TKsSbchO-saSJ8Z7E6JOKq4yiQkXa",
  "CQGSrfRkwktIZ-3pWQVswjoCG2skaz3auG_1Tio-Frd16qW51FMfBJbFNMlF-EAipRlQlnJuYgmg_eev_ssZavlvcopAxB",
  "B4lksy90lH8bkoO4nR4G38YDbyTGrCDALxBUKLeQ0ZD8Lnk0xduOPfPu6eKbhrknz5sacmoq4H6jK5nIIitnCMYKidtYsD",
  "WiThU3L_knOAUx61ARYM2QEes8sWc5Tsf4vdpYEa5yQiyJpq85zpqEzUSBD37hb3xW8XceE8b0v3OZ0moj1ZLYEiPYvAqK",
  "48QlJSlUk94saDddK6eLpdcCnHQuKD0ZZ-M0vTUl5q4ymTbUp6N7Bf-3jYd2jBa-T4xD0yKXck5LmcgduXPGdRWMGVJ1PW",
  "bn8FHyZoa6elqmIA7gCD7-mV8BqjCJFE6DDyDOojEKtYC-2megisayUgwUxeDOb2_SH_dolYJpj7Nnzs4Dtr15dUJdzaZz",
  "GVHhMd2xxG7F8u5CZwcwDWvkNSFYbXroB4jChOnVwokR4wRlGBud6U4zpUhsNi7Z6LG3J8jSxRA2USOqHgyOTtzvLzhCHF",
  "PDoBVJaNlUFhjlx0C9QS61eRbdxZgiW9KWXKiQKVbjuuYT3TyYFCCV1TAi3QMnjiZSpZI35bGmcNhqLOdCjSSl7Vuposy0",
  "HjwWhgQUOYBbxHapDxSYE1eKvpKJKnKUtfI59uPVyJ5-xc-1Zg5mFFwlSsj9IFXE-jyoZiuAgab58dxIOCdZlcoeeFexOn",
  "3SVh4YxQVVovCDirB1chpkiNuWmQv-pd8nC4Vz9FKDts8TwuOIxf9DOob1SW2N5bRRt1vXNchIBO-j5DMCElZCzOhdCPhQ",
  "Ea0cdVJ55saVFFW1KtD9pUgiYSzRtSCMAFGj6NEBRwrGizIRKEaHNZ2ULUbVKbldQaTvwU8W1wLXEjP47Kli0Y4UAg_5MD",
  "xGEEgEjfdWVt5dstJJuIiknxw_4yyIGlOsns9R1oSMKRP1wEo4Pwb1oHVjjyIuhBnQMGFgB5WcV4MMxbjBmwyHMJ6hrA1g",
  "v2wECitSVOIMZiIAjwhMoPqYwpaZRdnA6ICsG26PMU8CSqdP2dxwu4XiVMd8UJusophHOMEoHw8eoqJyp1c1zdzqEOnWFI",
  "yQ7dS1w_V71XNzCByilieGo2plqEcD01heJ7yEuVX0T-ITjdQdiu6QbU8o_wcCu8L4FbMwTnBDqgKO6ZE3LDphgL5Kx4fm",
  "QCKOZAoektufqabcwvoVw0TnONk5kooEpcnNyHWeuNmpiWw8S9Ldn_DYYgM8uT0nSXLJHtbAeMzwLmcft_4p2c3cj0_63z",
  "YzxKNxchKZxRyKlIvijtzMxhvIPKfUAnAbGGhcI64ZDzjOLM-QdM54EGFKtmQwGyP41uLoxnViZiHuXQtEiOBoKOIRro3z",
  "3lJ4v2E4TMRBJdlY8NDnWIKP7tPJ1BKjBANQ6mFKhE-JuSMtELKchkYILloU_qiwPLAeVmA57ipHfCOwewTA2RYqVtc_zC",
  "-gU9w-JNl7BZLJlYV_F3w8P_HZcIMuV0A5qe6uBH1h09jqLh33dslbsTOmTkwEcVAyOG6FyCYBv3jwbybRYKw3YztKOu1U",
  "eHqJykYNWBvh5mNK_vungu1YWn8OW0UqqmfIIRTJfgAQO2_tjK4Z4jlSDUleiMIGq26P2lqIBIPAGnQEnEU4QzAZCCVe8l",
  "YkoIyCcy2H2R8icrkR8Ehab42FMi4ZaAy25FOZAjnAXKNGHO0rBBqmI2E40pR3JtFbbK7Kuuf2CElsZSQFpQQw2GF9Lsmf",
  "8dmvZefnia34NbM8yG6EjYaYH4wiSWjeOJyTCChxTM94B8Rj_jOGbZkksQxPlJ3ze5gH02eSp8ypGyPloxiTQLMLpGIk1b",
  "THEr_BgAJRMGqeYu-MTKf0EMmkXN98OqxSxPL2sG5J4yOT49HOgaJh3ECfz686280NzgfGNBIiihPIxJLMEjJuRTGGi29P",
  "KJDiSihoNCq5s4TCmV-niwKb-DmixsrQ4-aX7pxJRyFo8DrSpp66ud8PfGVF473XThfbYwsKU0VCmHYiuX6J7HWTHCaNrC",
  "OFzLuNXOSqMfhn_QyrAXTBvbPgk6OKCGHIH_WgBCX-1HZROekyoooS9dAE5kT_jSlt7ONjNl_GPCo4EyEI7Ao-D5OVyEkL",
  "E1qOIORJyJ5CLLd4NqRyZBYEn4tSE08_bQKnFYFltG4uK-hc9f-we5P-GO1qScoMbL2akgyQfJmWInZWd3W3u3P-IXAZNQ",
  "0kFJBNhmSwgKzLlT3O9ZQxT6S17IoCrsbVe3LD32DSAPbGlRayuY2g3PFgmszDQk9i36m2withUkvSsP0OyHxjSNoQ9-Lx",
  "54ew_kyUtHEinfPWdRkaYrRUm95HhC0gIAPaVw0WlCuLJGCWWhARCGgMqww7nID64JGGyKGEyquWYK5pYUpGNko37Qkalt",
  "O-OuV98SS2mXNRPAewd8kbzuzALk-DKfPYROr3iQjDeVQxS4QAyXiBCogQI9PlRMgLREPwWtWzftX6DG_9vIA501bHw11P",
  "-aIVqA-rnQNPM-ITlLGHLJ_Z5WgNHBsYScISy85VBKImEaWhi96-VyY_NzCgNtNTV9kxikj4BpInAAGzJqUFzRQJhJbwoa",
  "Oqk8aZqOCOQpNqlUBziA2HzLPPh7u5Zhxy3rAMDourwgDB9BaLNBQOXgRcCAJYsgIatHzdDqyMHD57GQjSHrgQX8AQiFLq",
  "_7k6l944riMKr0VA_6EzQGASEB8Cgiw0FAM9nNhBrAi2N8muOd0ctjWcYaZnSI3ihU2ZViw4UbKMgcDIw7GiKBZlUiJF0d",
  "Iif0BciYL_TOqcU7daCAxJ43l037739u1bVae-4uNAVAvbwVPdlGcr5Sb4-dI4af6g_6RChpollBFLF1CVnqXZspgSWiMI",
  "hHcmZknCcUVeR3ghpuTzR5xe6n-c401WTM7KbjeE3yAbIBxrK8jV8Mlcil1QkhC3luLIp-cbSYEqMdmMmP2grotrb8zMtL",
  "3qCm2Dhm6L-xM2u7-DcyRhSh0a5CynRB88ndBW2s4c_jvMqavhC7LniRfpvBq-ApEE6VMoWcLbWuAlFihW2WSdxNUyhMWh",
  "Z6cYG9CfhYUFQNEGWRdZVmFBumYA-3HCVny2S2BV1HYFsxAkrgz618oJ15B2qrt67q0y7U-VKMISwCkZJVNNWNpBw44XNU",
  "87rY0yRB1ZaLYy51NiZyTSI_wnqgoKi5SRVSwSUPdJtJQIO6dOse_hFUn7K5uozr-D-ph7IMR1UGBCGLxiXHqlO5Vsxqhi",
  "RyaWn-2lgHhymZjKcXl5OXvv_ZSkdAbhLO2f33VaZ96XYgDJH2_GruCaDaXsvLgvU-YfPWOlfjGE5dqFnr9uMjJhC1Vmtw",
  "5JplyvkEAjBiorhvULV_XlaHPBnVvSDvsdgIN3woZA7g78SLbbdIseu5F1sihlw9LyydPuf6NUYWcyaZyx25vIUoKrx2Ny",
  "1j72ZActoG3KMeIu0vad5cjunrHuMz4W9WAO83M60qkuvWaHZq5y4AzjUoUiDSOabTZajmxKsgtMQb99fxKy1ymvS2yjim",
  "ejPIuJDZTlrSylGfyiKq0vQOyZCuWdBONUI2iYKcUoUDxXQshSV8lVXuXEht1x6VoSuwW4g09CkTdqZ-7S0hyuyf5VJsV4",
  "HUQmKHC7SsP9QCq1UKGTgy07ZS5UZBeliODoW6-wsHhkVbIgKfMyy7p5_qaMtLmOijhDutnPVBdMG_rZTZ-T2g-8RxE_rt",
  "z3QxW2Ij47z7FuKAo4DLwaCu7XK-Vm9ivI4vK0LamryPos4rk6TnmjSZtjSweEiHzA5skDvlFS_QeIt_JwSX27JAGUXX7K",
  "asVeJC8m71F-4tpillFK90eddCSUGyqlA1sWPa1ip8B95wg2IjIbpOM6kyUak3It8NwPqSzWEYdOOsMb4wttCB_v8-GF6J",
  "bJ384AjWywsqedThkJwBkyyLTCAecYsDLbA5-3DRmFqxwuVIyrWNIO7BeJxLE_gOgAvEXeq7jjoRSOWnmyZ7TmjIew5xMx",
  "dODVW6So1GqxmbJNskiqPpMiNVypx1oPKK-j9hvnUNmvyNCuQ6SWXda6C4WxRIVnFxYonebJvYRZ0sSQUOwVs7EgDzI_dW",
  "Q1UHrzU-y5Vl0zjFqFTlJvLaHqlrYwyYuT99yOKsZrXkgON32WVjbI3XX3ZyFvjhzbOQQkZpn3wt1cL7eHluuL7LKLSJHv",
  "qZRelo9Eh8ZhcpavoggLi_BAxQaU7Ch9vFTM_hDMBhJn8skUytSwwDdKaeewx6yx2hIHr1FGkU0vhZxhT4WqKZgDYHGqCg",
  "_smWEl6vBg3VWQUiLr3udEzfsSUuM5w1gMHYCxu1HhRJawk1-KVOIJ9bEMDGFDgfuAxcdZplQJU_h0eZik6-5nhYnB_A-u",
  "oh33w7FwT62j-JwU8VViM8x2VLcBDR8zrQA7QIWedZ93pJtdyM6Wa_jTvhg-mflwcOBJAmOJBqRHJOaDKoBiM9oXjsJXYC",
  "vnyJaWYXc19uinEzd2ekV8TRR09Hqz9PBxr3J6KjMrIZe3aVlKfGxCwEj3lCBVN6CPkRrJzGVeGKNLaW0_0yScIAUbrSP5",
  "m1udcR0Igsx1q_ZiKZ5qkZ--6E4zlL6DH4XStTmV_mvNz4N07jFSgu4gc0y0d3vWwgbr5J71KAV9kSWhYT-iD-Lbgnz48m",
  "8v__Ty7ss_v7z36mNS3na__xwApSHMStj7pSpscqWhPKeGpeaKJlLNbLry2cNPx8uVf097r8ppaFTSNMqgOlbWUrUv8F6o",
  "upDFSfMXc9-FWYg3OqWM3i2eI0l4qwGrrvBsKdesGpB3oLYMll18FWnXZYi3anog8YNa8Xis0Gn_EjU7SNNSxJhRc9sb4H",
  "kk8r6uUr6gCrW8enY99u4yOIUwvXOpvyS3Uu0Na3PSo9WJQ4e0Hxct1Z75V97IE1ShTP0C-ZU1_7-7KLoQcAnUe7Fm2l7n",
  "hnyRFcPuLhvzaDOLp8TCu4JwhQhsyJEQYy1hFUoWSaXJQl7RY5KIHooudbzl7-HVt2AwvTg6vkOK0iHfvUUmErhTD-3fp_",
  "b5oxfPyGMKLhWpSIf8Fxyr5-RMPQ2a1G7DoxLJiWfZT-yk4634FAysA7KVDkhtekwGFluK77340tlVh_adPSclOSFKbKvj",
  "O_YJeFg3dZXBkXrixCm8Qvs-Yh8c8W8xvcSeehKErO1gQO14b4CXdSTiF77BFuJX3mZrS6I84Ww3redAmHru17tnV77D3x",
  "6kV853Ei8LvwOVqjkvWv-Mva42iyhGghjPfIt98ZT_z9_aezfxDklUGpGnZH-JIbUX1_HIRy2N1i3yr75M4-bfO3jtyE_S",
  "VZO5xU9B8xKfys73VzKqDp04BhbW0Ysv4hyHHNFdb-8z9KkTrTAe3_noJyrZgfhjGEvrU4wb-yD67xnP-4j8sC_Iz0Kf_C",
  "OdFzwztMVHSkyy52nmWAtBCbtjR9NY3jn-1OlhW_bLLR5jj4S1HZLFtuN4Oy_-Er3BtvBK0ozYsSsH1-xzjtEOjuWj_BGv",
  "Nn1P8-yQr53qZWN-pFkruhn7_UCvjv_gc-OI82iXcxcMMraPtLLfB7UMY_sdribm_RHbrbn7R2vTth31W1C0Tu6dPHj12c",
  "lXeFI4FUz_iiH2BFQo0aXE_SKFa_vkPslat1_9DqQt-554WIkyln772N79iryqj_Xeq62TXf_FE-dx_QfkMhKkPuET6x5e",
  "2d9b1irQuh6QH4Zf7JE9BbIWaVb26b6d_7a9ckqYHdmuA0ex8-yDqkVGGVlmJ4fWgnv4lf3iLt8D10rXCmbYN9Ebt719D_",
  "17WyeP7D-7BrZjO5hq5J_x-_9OPLZ0bbwa7zfSxUQtuymuGY4EkhqvDT30gNfzLzK_HqIt6lMQ0ew9EMK8D-x6t8je-tR-",
  "u83WiNCF7z1iT25bDz3EFbEfSIGzz3k1IomR2HYXbLMYBXxvlyyxbZDMQB1j3-OMn4lnBjqafw9nu6-e8JG2lvrZ2Bonm3",
  "nfO5Pu6xjjv2NmgBqXKGd-lG84lpx_J__0693SKJKo9sDavm3X__XJPnoYM9Fa8wnHbd_e1wxTn2sm3yfpbA_jrr63bz1w",
  "Ut4-Zkx9cfJ-3gUVaVqlRhghPNuIFua61Yq_q-cyhW-pyrW0cD03ultNFCwyxrD5F-TLtm7ST_FgZX-jGg6oTvEYG2UxcM",
  "muQ5BVUle0VuT1ajuyypEW4aHGxXmFwWlJwmfm4W4P_ifVWjmik5me_VUWyW6i0ecC09VaWmgEPqUgBLAcXOAjIQ5yV927",
  "KziPl8Nxu_uCezQpa0rSEHKE192KLEdeL3l6POxNu_xiDVfBcEgtTc8sUMs0QhiSQbIat_x23JnGk9XE2eu5n1_92YdkbH",
  "0Yu6RRqeDdImDaTaSnvdhES1Ztp2TdBbNrauqtlDapejGSSsLddA5B5XZnEEpG1V_OFHk3ExXb-vMtQTXYdLhlfl3m2JUH",
  "qKQs1lcHI4ccJYIM3A69Ubser0PaqMAPdDmTK8yO4rY-cZms-9by68rfO9-qrRE39I3LzXAHZaoHer9DZbLF-VSyaWm0Sg",
  "_fcjUshmXQrqRf4zzDSKU4o3uwqrKGYKT2iF_4WuupU2HpNEqRImW8sVKUSGRwDTunrkqcXsgJih83U67xgbfp7GVWMhKe",
  "U_kS9pn8pMnqX8ER5TY0-_vCSpfxiJFcw27MvWOTC5WRB8Pp2ow6WPBUxfRlsS2XKpPlQAwCFXIWrFbtWjvxYiMtomdFKY",
  "8VS4bShVb1N2hoWoNn5rqa4tMz3IbT0updLlGRjH6FVmMdVnIys1Ov5ynequpK_i4cH7rJGueC3BE0clNFEKbvJllOvRy-",
  "ygyV5f0mu9zcQ4lbZXfWXCMAktBUCs3QAdYegmTI21Vh7Kj-JJMfqAg_U6bCS_I9DigPQMjlHZaJyBA3WmwErs26Y8dhmW",
  "wcImXIcAHJEswN6Rx9qRHpSZKjKhlzqBjnfjVk4iEoL1s6eIO9CWsL2kTrjyazTbAP8HUfWJVp5exA79vC0kNu7ABygj5m",
  "IsWUFX0DUiNS5PSuTZYKfg1btrPQObkkDNNTtSQ8gE8JgY9xUSp5k5KUetg535pfbOSNHuJIkBafqW6pIrK-OB8BvlQ-Ee",
  "tDRRqV8paZHEgcHB5UHY8deLygzFSkms7AOT3QriAXuDusVP-uvNCsO1HBEjJl-r6Z_SivHh1tkTebTTcSbPSvB90dsnN2",
  "YeGH8KE482KxkTwwzROjfL41MxcgobjnB_1f9lOEKksF-xCbcCoRHNBD6XeUbvhaYEGeM7Keevnw_8QU9dvNYzzJ0jl_Zb",
  "GzLGfGlZ0qn4h4NwvX2cb7n6lUDo8w07abVJM9gCCocQjyG0q7911ACo8RlM59LZ-hCm8tNTp9Ol-9fBN-4PqGH4S_pb1-",
  "vZ35szOVwYOn0WMp9OeuOR-iaOICmQvoFM2vB-6yXlz9URqWgriKjvrMMQLLkyb7oMkHxRKUpeD_pgCD8setQ5IGD1ve-c",
  "248ger_GF07rJi0ViqRelP7OVvWVoDWrJz6QGQQY0ETzQUMWWTq1FwUYCiB6qWAssauTchxE85Z5xAoVyfCyZeb_L2a4v5",
  "KEvMR0-cm9B3yox8SA29LBmvHlrH_3F1bbtRZFf0GUv8Q4kXZqTGPUxeEsMQIYbJWBoEEo7IW1R2l90N7SrH1bbpUX4hn5",
  "KvSD4se132Pk2kkTCM7aquOmeffVmXniB0mdkZ0a1WDKGjtzk7w36Lv-EEwcvycJdhU71GtMataNNTcoe5T5p5oBdaqMgO",
  "Ri9qTs_pFiqFDD8SecJBmo9qHDU9GwR4pl5nX33PHNBHQhRLGop-E9yh5DYqgNClvYXYxdbrJg9X6AoFf7pWxK0mXmeeeF",
  "HeukYGoBynSycUc4jKJYU-PX8I2aFZOp-DFEjxqE8_vk-fJIrfTLcAybVxVid1EaqJ2LCLIqXxrSmgRsYyl-VJSR1-hwXH",
  "RxK5slHjGQkkIbT8PKfRRvyyJERTLWwQZqn1hSHt6GSkHXVH7k1jcT0-ShOal4YFn-ncvNko7gC25cFc2mZCPiYRCjSLs4",
  "IHE6JR8EOJFWoGSjSXQFdTN_d7voS3LSnruwIipUYqjrqCh87W4qCuT6Wsc7rGxW_4VUZf2E05jedoTJKgm-1eiiiCu6bc",
  "znafvmAYk6Ie6ImrvHR8x_o1fC9-bC2qg8BmCQmb07k19lua98SL5fZXUjavsXVEce8lVQoRIA7J-M_pKYYtTZAip1JPGs",
  "yYmAIE0PmEEnr6sVjrkv5bDw293VkeF_OHiSc-573UOMhbp-Or1HAFWsV015JqcXtrZZPQ2Iij_NSGdE8yv4u7GmvG28CS",
  "XDAmWxwdHeSTJZnazp6X4i68vSdkTVZdcdUnHQboQxxff4fN40afgrZshvPJ9AmbhpPXDf_Pm3Y6JTcmPoUGVVye7-4qic",
  "QhhVFF_LUdlj8iovsbnL3ib9ebrynkcT7sHgaJZ6TRG5ZGCU1vq6S9RxKTINAcEBBt6zPrflj-fPZz9zeoAlislZAebpvx",
  "Yi_UHbUC48cMEcP-XbV8vQ30uyyC4kaPS22go_CEUonXLXlCjLL_T0KseIpQlRpYMsZN6VMsWumTVJe4zw_fdARMzptTDX",
  "RjsQxduD8_x9mgsfRVdgTmmhF1rRrv0g0181ThMzmfV7qYYG8eX3kGP08T7_ixX1vQxbTKtqsK9FwosAmmbtGtMwUGMb4A",
  "QdUaxvwA6DxrQ1KXA2kSoW7nQ-PnxVX_8u5MHnCvW7aNBNrZyttqGSxYATKhLN9fXAvL8JwTYa0SEMfWFGtZMxdLNpaL10",
  "GoxXdMbwWIBOzED6pQM6OE_ZgON2Ql4Yae0MduJNYijqDTlk8mmpAyPPBHXCHKIYR54Fd19_0Bl2_uGq-UsU-nq1YUZ6ol",
  "ecP8nkIXwyH_iIoynWo0fiBDiNaaglPQDaPdDW211oWmON_XO07CGXZ4FPa7ZxBCLQu5SC6c6WITaHy9ASdwalk8zjmABP",
  "qV2iFxSakRUzwAnBOhC7DkWsK5eLmsk3VQfc6yuiLMH05bfdEYojNrgGec0x131RlJiy5KuVbWJioTj6_01IaCFADJSuAO",
  "mI4Rf5KHw0to69kKE--7hNFBJbbIXtyE-XCw34XCnbD0KfKsZDp2L3EANG1L6iQSm0Q9qcPR9cQYxn83N5tS5t_CUzUdnM",
  "_JeeWdUVCIK-NBfAI-gOsh0k-5Fp8lJyQKgoLOz2etNEoQHRV6zEjFSLhWSeN3zkk-wsy7r2oxTkQsLAr5yEMZlqkNEvrn",
  "wsZtxtLdH1bGQaJQ0Z9cO8X6I4yN2hbxe99xhswcJeWED7BgSNJnazDGom10xlQdJB2uSKdJr_sdOZe8sxHXrYtJPOOqM9",
  "KIoDXtE8jczYKGqDjhe_tAhQr6blM7yrzMXeV93NLYBkBkd0zRoDtIkh7vjiqQEt5ModTIuU6LEbRoEMR5RzkjFm6xUjMJ",
  "qb5cv62mZr-tGXGUUdROiuXMZQQq-hetSRZs8SbLbaLru6_X23E-ma5-irylaO7Fhf-6e1NcQ4uI87EBpQiZRgA-SaciKL",
  "mhuI_ShAMxNW7HNQofJyVo-0R1UP_2enAYVFeNJ04j6UGYCxkMIj17eHq-TJtnHlw4cAxDaq2KF43Kv1ChTgxP3MOXYbjR",
  "O06m84wA2NEDfdZKhifIkzcu4uN9pU9mvE02XAnCfGEMLraUkGfsirmdBrvMuCGIB2JppKMsUwkuRHKs_Ryo6g_4CDVu04",
  "X8H0_ocyCS3dR3QmsQaCR1rm4J9JYgD9v92zaTeNzoL36FsRwWr1rC-UPjVOCylkE0dB_vKJkMLnQtn5P-498AHYGghZK8",
  "AYSmcswnY5wYLygR-JIFaAcZc8q6CiSqvA97a0IlgJUVFZpgXEwoeLgLNmbKOBZMmibgkRCqOdFxvnhp3Wn293fkmJqgWt",
  "q1YBkoVETk1mdjL31zqbMVzfYICpdiFPWx8HdqWD0-eqSy-_ERnq9PskuB6g_dchFeuS-Y8Jmjwz0_dZV7qxXBZ_ag6heH",
  "xG0BIVnTaDBxS29cz2a61AqkNuOsOogqhlQJbIyM7qKdWSmbh42S5fP3B32ajgKN02gUlqvfl_RWEIOjKWicJDQUOgSp_B",
  "ZnMJwON-e3m7trMuR11G2skBpbGqqijqmNAMv-A3Bz8Oe-HRJ9ygRSnzUtsRHEIATo8IoiXh2XVMzYNN1T-ptcVT0UxTJd",
  "lbFo1cOK3-23_mzV70vVH8RJHZBA393JBx5aHm1kpppM-3j2zQARDgy54NqljW-vCKq7MwTJ_UNVAN4fgbfG2k_jO-yA9z",
  "iJACMTAzN9XePxQScKc5OoC7Ro6XCclaVOyDzJdPKyP9B3pZuN5-t7KJ3Rzc7kAuqfUzePqRCWupdBoh_ZxqL0Rtu8vLNy",
  "3NHhY9RiArrjez-0qlmeHd4thXV_gFroFdnx53s9GsP2DT-1MpdRxDcgIsWHT76_3Tt2It_wUhQD37au2jG3noiDlpxGMp",
  "K1WCeyCmpTwvy4f_56_DE1Er5BY0IceJuTtssmCICf8TleNhyA23drCJgSUUrX9hW1N92V4aRRh-B0KUyrEy33VnbT83gE",
  "byOoAq2pEhXJaamfYapsDminCKZ1R_VUjXf861HzpYMwRWKHFH13UshotFr9IpWxIaP9enPDfelephuCmqRm3ivcMSUMNf",
  "qOr-KEpH82VwkfKUNUV5jdtSKtyIcZmPA2t9kBKi0aLFqXCXF24aGifoWZRRHjend_-IYMB1XvVR3kzZha1bvVq9GZ00bS",
  "0xQvhoxiqfiwAuT0pSZN57sRpuR-UImgRpBYK6HiGEzjYXa8lb0hQEOWt60St8h-iyjofy0aJQ7hGdsSorRvW-skncixGV",
  "qrpynMLOx9cOuN4wyLApoaFVUvXvMsHjmbETjMLwpZyPBsXFw2O0_hb9qheUz2wiXOYJA2bHyNd9EKPGj_jH4OylVUojV8",
  "fNMMonqoKRzoGnpxvcoT9tEj865E3-qSS-ZGGMVco9qRHl9c7XNGo1LLHPdNy2GRRix38J25yY4AyE32DIHCrF-B07r5Gx",
  "YEhG2-uKUIvj5a8NvNK22qDl7jTEbov7aSPe4nJFhGZJM83ToC1cbFiSM5VSoHzxnBsSf83pCH55LTUcs3r1yHa9f9KixW",
  "tU0kBSwAhvwoLphA38omTIy0V61MYvavL5ti1SKdbTos2j6tj3atyOSAo8immZ-S4zK8Qfivlm28lqFqyI8t42_6TguzNI",
  "SLTq2n2SLsrPIpwM94JgI-_w9Td5NXRD7DAk3WB56ZTaAiPSiYCE5_e2NAwQHrmzuWm-wr-1v14TdMcpyXYDs5W5E8Dfcb",
  "mdOSKXCSD9Hq9kyXJGpQJnLvChXnmrRzOfUSDqIkbz1WRx3uT2yhe2TE0plwapliZsfcsVRAGG2H4vQrZxFMSJScaktCFR",
  "iF7ujHx28gNHlb0rNgcql_FqscibHfkD8FUp_r_x8lV5T7pNs5ax0tuTMwefrYav_UuPmx-yf7UR0bMJkCcRhykw0Kycww",
  "DCYvhKVRES7SFUj5GSxHtuoVo3yhCIXYPyMl8LlhIoGkJrs_yTh1OZizIsusAYeaqHGKMFrC2X4g7eEa3P2l0zoU7S6YUM",
  "CqHTLL0SQ1TRZMZFXS8HvVpOAyGuX-lvcL95GK9uJOcdkDGJVbryv97uvWwncER-3fZOYWlKfHnC3SrQrbx9aBmA87Lpvx",
  "0QFEaNdYOxbrxmaYq2CqgRd6NzU6tBOfpNPvc2bpXchHonMFXz46EAqDrQJJuivnGjILYnZBfwvGSfRkZ-wWd6fJDFREQo",
  "44KXK4YwlaYzssj9-YoRHlkS8hV5x-a3kQtm_UccHVIlSj4dM3ey215uUU19-NLAkYVu4ddwyswZ4sZpIqS-dcNS15mKy4",
  "wcGJqlVkeG13L_hELaMxMtmzPYNj9bGJvFgTBXO82JesfIS3qYNcj8ZgHPdqPlRNM-6LrbdT6ZBojo4-ywR58lOJ0-RMbQ",
  "1N2i6jPPvLAzTtZsUdDostO8i4flXn5lkbnvMm1Sc1KZf2pJW6L5yOf5IR0t506HkbS3X8778gRF-smDmF4la9Hp8oHk20",
  "t-lEYuRywQbRf_7da_2aJjMmm6Un7EKG6XoO8A5v_JM5CTfgEdJEgcciwCD99YaCZEP8dqFD0kGKV3PqnqKMvERj4BQZJ2",
  "4SFSv62at-5dQS33EB5VxdooR7I9rc2V5-RjkKnV7K9xY3Zpbcz4U5J3erTS8iD-ECKA2l_chviF2-ilzocw_t9eQVzZNn",
  "pXy-HqZCJoWj5sv4bGC53ep20DmObAifOPUj-SRRZ_EFsLrVGxLgFpo8pCIZc6POFr8cIwRc1bugqE1cBOJiKf_NboZkH0",
  "6edCelEHaA8J3RLk5_rLRaQERZLkuo6ei9PGGFJUq8Y3wN3TqPKk7KuDNKo9UAdfVnbKcxYqaW2QHANJ-gnHMbvmB50G60",
  "cCYIiN91B_igg_tfNgDWxbBcPjw8HF9N09XWDju_p63wlNnywRRbvedb8yJZ8KnLqMnmoEctHBLAtifP_xj5pcwV9xDOyx",
  "s6APq16SVxjm2aZ8cfYVEhTuF7e_6ng9-ZHiVxIh7Mv1c__tC-59kBporHM6Ze5_G-XjUQDKx2Lv2AnpZ8x9Pvf7njMA2V",
  "woK4iHu3pGr--xO6KNOtT6AVhL5dgwldkX6p4g3zdceBZXb9TFurDqYn4N63hvWHYRzn_fY-HkD_uqXFi5d4y9bkA3J4ae",
  "gwVFJS5h9okdg62_izbwCZ7f4AkXZk-JGA1oX27LdRRrz-H1lX1xtXdUWfY4n_cGtVwhEmaV4JWIKUtqYVRaSoD_2Qxp4b",
  "GDSeseaOCRZFMqYUIqC0KkG0TZum0IIoaU2MgxPH9gN_IPyH4DT_omettfc-G1Vqw3h8fe89X_ucvffaaznZV8IxdREIH4",
  "gTy5N4j6RIoElaS6f4RH_ah5JOeeHKINkbnhnXgb9_PsFwXI0UqLVIo-NYV18igSK7FHU81Wsqq8zDtWR19vGyeS1T7nrQ",
  "E7pDQMuEtuvL3xJIP_hBSxu_W66xl-5Svz0cYmplTEPmG5sODqLnFG2pnGGIqtRDi-_Kc8-cPQ4_etSnfzNnYCPlE080yc",
  "FwtMByO5tQRsKyM01w-gxjh-fpaQAk69G9OJ3TpTHfBGJryVtqU_-cTqn-59fKMdgpEad2ECvzI6d3FsEboIPFfELnP2C8",
  "koYfJ4-6gjxdE1Lak9nKzRsgdEPCoxQA89m-VbV81PGW_oR9sKRDZS8GVnIFetgud76yanaVRROPzJY_LYdPr7Llud_QTo",
  "xISPBostaePstq7ZMnH3-y9DjGxcRWxCOlpBrCxG4rEnq0CZa3Mn_OpHcI7hJw233rZ5CWO_eLBx9ceLnG_2fC9aCSe4AG",
  "501SSp6y1ZIr7czULAdHZ0tFBeecPkFpVvjQBNKujSozKKVeXdTEORdLn6R9pAkp84bZ2ZGPe3LyTzpWQmy3CMoan5joqY",
  "Q4xH5hajsPpyzz99d4wpVb-gIBo0OEdi2A66kHuZJluc3PnBghH0rfpAL2yRVo6NKZjO1UaKkYh9UXm5SiOBXq5KW9qd7l",
  "1AoAcDGmdX8kbMZ88WcZDlTcuXgB2Askret1PuX9nwgm79lmhGVMB6XrKsxwuX3MVdTL9Qspmpi2qZk0jE2wgIVEi6wLjJ",
  "mj-9NaKI7O8Jzb53QYbvxRhOI6X1zKfawrseNFC8W3nMIFGhL2CkddLL3FFr24MnxIe1Bl1QCrLdKXkmwJ8lQ6Um0MWAbP",
  "huh2aeETZXvrzAF_Ktl51H84uQViWA_yIQ9N0tZx3Fwhri-4tMXcYg4jqxkULZD7gyg5YQJdExw44ueh930yRR4aqig_N-",
  "iXSXC6DGm5_xJxuLJ1YsIK_W6MCwL45pDi713Z91iqjjI1256YyAVEolInwA2KEncUsh-E6qjUfMo6eXIMdXBOpflU6dXN",
  "HKs-b7HlEeppK3SOVIxO8jtXXN6GGobHT8w2la9kNdkZXO9N5rhbXvxYTefMzCTHHoG0oXPIVaBk8wPLanwPXm_dI7oEs5",
  "ddDVOMwbgfw3xScE5nnG0ilMxpaqGOlyoM6qEUUGxSaLsJ5VahrYZjKw5xfeQ2x2fL9482FdyaoMFNQiv0hdrS-y_kkhZl",
  "6hhfXao5eSLLhe9pfdyZX_UgM0M2_X5boxi1Qq2W9fSGZyExM22egVhKabmfPvoWlubTR5RtVS6EHD6e5K5hzSaVB3aLI2",
  "plzjNnWx_bG6xUfweUIpz-hM9EcAi00mP3F1ZTLopGbvjY2hL-Jm2QKcjXyOPnUupPalRX1DXl9YckSGmC1m0xnYV4iDO7",
  "l9ypOmkbCPnGeE2eWys_SfqYvpvvX3Y9cV4M9kw0gVLct3FGMzIm8T6EqXTsZ3vn3qSNBCA-O-C8W6HcpvaLRuVKgMBTyN",
  "KQr0DfOUy5DGjgyw1-QBgE14hVfxL434r94yypKmH5e6Pqydw349A8g7WEejVu-KRlgmLxrsK8wrWQHa6MdRAx7IHwf62z",
  "NJ_jpcC56Hsuc7XWXs8YIVSkvUb_1rjfbCNepFWuo9G4ibzbpPUS0eG62z3M1YWEmGcyzXJy_EPXYUxnMM9hKIsWQEB25i",
  "LM5kAAYuoyKESHX1Eb0tJW_OJM8jtSUsFqDbWa8RjadPIx2-GQ4U8BjIr9fdFrVNGuZK6atJcpT2fsszhnNJY7EphHIWBy",
  "sFm5SuTdtdcwdiphQctfMXVJXE2HhKzV-9BMhFapg4Us5TCX_LjFaSULREbU99_yWlziOIcr9ySE8aPJBzekIadxKtvr0h",
  "lmJG4xvWdICYM5ir6wpTJ7rKjiZlJOG8ERdF5rfWk87J8ObjmpaiLfS7hQFCrBptXyuoG0JhTxoLRs89PepFlcnHKFkFy1",
  "83Wc0Ps0yz1j2WMOvyLUOZ89dMl11zHy2_gaRF_Xs_TSujBFin6fiViKhFlxmui7b2J7Qcq_N2CIbsyheaoGnJPdG48sU0",
  "6ATIJvsmbGbYu8ZeFeHJhoqDqiNvuphFH7l6nMK-y76rUUtreyb-y8TbRWqmX3WlQaTWamzEIk8IOxVKsiLMQxsY7K7HPb",
  "uJA2p6h4svpKK5HtUjl9N5tiO9ofiRcodrX6LK4DwZgDc2gNJ-wYRt4O0cYGNzsdr84GKziRr4GEzojk-5zHFckGO7cQrq",
  "DsNfMGnSmITCVCHZU9nTQNvZ9NeAT5APWnFUfVmj7aQysFpI9mcQ-VCsvPwgs4kDLqhcrdZCusbg97fes8eNLa9XMsEcS9",
  "CcU03XZwD7VFELK_zAhGsWbHHLKtzeJPgcTsx8tt9SORB3D-Ncwl92OwNgVk18xhQuG8-7Ne52sYY7t_KvcyOympDG46Ad",
  "-qQavkds_gelKQimuWKu0p8UKT1EErDs7Od2YXKue8mOSkN88CACnS0v8tDTCaAwNmefKpcwS-c2WPYNWdVR0ZwmWdNrCo",
  "InvMsoM2krBYb563HyQWfMfIWXunvnZwXkUSCP5CAujP6O6KIYxdLLlYISAsLT74CD2jQBOZSin7KvbceWf04zrqgJ-TLE",
  "WX4jxe_r_O3GjZbC3N7PK0OI7MxgmG-iQkFcs8BOuWMQvUTdqngvUBpsPWLALQhFPxyAAxnWHM-WLfWNyMGGM9JRAWvqKN",
  "nLLpgcg5T013rQ3HaABdZHhbFqJXOww21rXIrVrfcvGHkDfqaHiefJrnUq94zLzA0mMyZQbYYESHW5VORhbX4U9W6WPCtD",
  "wToN96zPNbObjdX-sLchzP2hrXuyZXtRPaQxZMmUdtdskMn1OViQ4fsrGy7U6_jS3PKiUsglJjkumcOWF4xjZ2R6avs5zV",
  "1QZmF57Gib55fAXQbs_Hy7Y0nl2cj3MRs_FNUCSjf2hGBufauVTmvJAanOCHTRsQ_3ImKUcft-dReSXbaMXbozFtDhaNzk",
  "ZucdpwcMp4LVaQ2_xSiv9Ip17rOXSlcaoUqIn2ZIWKEZZrlV1S5eGyeybDdRCrsKAPMTSMisG5XxgsqzdLx8ylQHZlb0ae",
  "ws45MLget-kxXxPdwjVrLfMaNOJ2rUaF83yiOX4elR_jlagSQWGD-79WxWR7WdiQE9Q7m06d8xvn8E5ohfBV573cB-NikG",
  "vWQ_vZiXEeVxhXjW5DlgTaDc0IrAHZSfWkNvHp0OIAU8dZ-Lm-q2UP7ILKdjGgnHQ9-wW4VzL3dlas9U5dS7_AJchjLQ9G",
  "QRehuH3AulSANbX1biCo0mWldaqBNSyRgVzWfa-W8oKqt39SFpFsl_Z-rzY1O7PmcdoeAV129iYqeEDwdGwKtR_KOatrA9",
  "4GKmzEpcem3ey5hrK762wMzgX0T_WbzloSe10V3q0guUtt4v45dfKXP-8e-FX5_7dPPtsefwmewPmmffm0nUm4l6MgK3iy",
  "HVEC4e_nxlFME-UtZADuxRyeQPVeJYTdsVQAFNXpcf6RLUo8SmCJtjzOD4-3Kadz-xL59bbJtHflq43bh2Qn3CVD3f9_Pn",
  "B-MTByHV394N6_3r2ze_XovdelCm2fb7wSn48uXbj3x99BfPmd3Ts3bx5t_f7o3cOvb1669_7hvdff-vqLz8v_7n54cOfW",
  "n-7s7t25ceHoD2_f2b90d3vv7t7lcuXdq-8dbV_870e_tnXHNHjpiYlgBq6tAhDB8tjidUqVFxPJOFif2rhjBw1YPo7XOB",
  "Nmr48aStz_yysSZfbvx52U6RhdhvLQUu_5HkWWhQLvKVm_Dg1m3R_IgHLFjwZLE56HqTpcjtpiYjDezTUcXh0n4YXixuXZ",
  "DTzV35EHEwybtY09R2bgPhIMwmv0x4rTervAt6LPxS7GZ9zMc2ct5O5WWoMreLxunFEiLv0scEhE8IG2WHL50R6Z-8AZCI",
  "a-v5HZ8BUw_1VeSOfd_OotsUmC_c-4GCtvJ9glN8j6SFZGsU-WO-yQf9PZCp2NE4yM8ayv3sEc5uy8lu9jvJ3kGhQbpT-b",
  "P-_f3idX5eec-dfxUzAXgq0w7lmuwh0_I0_ljfSsxI1IfsVdcorqmc6JuRP33yE7onNb7vJ3ZNYsffdXsm6K5TB4MsvVtQ",
  "9fBc8lOSP3SnvRFjCaXgBrqDF2bieu0G3r4S0wdIJd1PoEHJSV3XKntJ79U8bF-wbsjdfQr6VFe8a8uEUW0zdL26-V74wB",
  "9PY273JY_u7NxCG5k9q-xX4Sc-eesYiSe5Ispnv2dp-Lh5Ujpmt22abPjEcVMwAtI48n-SDFlrlfnnCTb7Br97FxBHMlmS",
  "XLs0sL8fPrfAPMz3i323-v81Y8mJxbt8p_N23W3Eh_i7Yckn_zAMyXHMXr4JTlDGTLy98ektN0i_2j9xU366Hmehmv3WCK",
  "xW8PjYf2Ftth13yjLQdpLHb1PM65gzqH-WTNgF1fX-Tn3Lx9Ja2dW-KIBZdosKhucx7to31sbV0vO-jrMsJcX4kDdKdyhJ",
  "Z3eZVXXytv8Y54VG1NieFW47vPNYB5-9syc_e5bjbKp1vGv_tGfn-uxy1bgTc4_ltkid3kffDcL8qz6hzGONZ1FHyomnXs",
  "b9ifPxuXbemfpM29SRXmLdeSfs30x6WBDslpl5Y2CWlpZJcL3uavLvqHA1fHLtdcqRLk9T4Skv5nuucnLl9OmWl8v8lvrr",
  "qa9ofpfTYo0X5Qr8e_O_XdIOodat167g2qe3_s97_o13zqeughUU0BcbterbhkCua6p0m3X67Pqs-VhPcFfrjI6_-TRLF3",
  "-Ti9rdr1Bf_9Ddt10VW5D12a_DpfTELw_tr4_n12zuVvtnGjtkva2aY5Hr100QXQP3Kp99eSvrx059XYf_O5f_G_Uv9_4H",
  "0S7S0je4vPjTZu-jWX2ZDrVI1_20W6Y6wv-Qh-7H3r9_zHG0nQ_BN_eoz1hguCf-wa5Zve9k98jDZMI976yscR33_K-_-P",
  "rXPrjeq64vhzLPU7bE2EMNJ4nLZv-FK5BidIgUSJ8wEO9hgPzMWa4zGZtJUoqQ2ilfpU2odIvQGxCAFjajBV1T5U_Q7m23",
  "T__-uy16kqIZsZnzmzzz7rrH1Z__Vbf-Jpvc-lJUds5xu743f5ph_zayvdftywB-23t-y6R_offS7cBu7YVUth9yf2Xd_w",
  "Su-iXry2_9RqwZ-WS3a71TOw_3H8N6GvTuwJOuVpD60_D7XAfWmz9NUfrIT6cbku7dU7bM89O57Nw5kfsc1H7Mm77KXjcu",
  "_0OfqnlZI_CH7jxN4_LDYs_QYbe2YfeWvHyzGn9py-ZfMe8UixN7H_P1qfPLKb8tpsQNr8Whss973YqvfhPXve7_Nsr61P",
  "ngT_cCdcY_A5ekXWpfheb88Rq9W7n-H34mzPg_24fd4xKz3hn1jIXu_Xw2Bj-2Yzj_ml_qzJs_Cw6T_v8FPyrD3ntf_Lzi",
  "P2L07-d02f_9aOeRJsRgz7OPiB76xPnpknf6Q-Ch95bg37Pa_Iz39kT9A_Sj_gTwf2p6d2xw_tLrAl0i3leX_Y8BXl5tqz",
  "pnZ-ohfr_kFfyr0Q2_sNz0-zUS99VMY4vV7v532-POUxz6yRv9Vr1GNO7QYdh2u8Zz8f8gwnfP9NGCuP9LPwGzLePfb7Tl",
  "o0uNgPSEj-G3nSXzv1-dXZGyM2v_sl6NLv9vn-axKRC6tZSMr7Z8ekeTsH3AnL3wbG8ot8hhfggoOnbWRwvNtgiP9KyNj4",
  "vnd39btsBUyqNLnX8v4ztElp00dKHcf_v8exes7v393lmaQ9L8m9tnN-m_-2DyJ1Ps-pHg9C9wGPAt_6njHKSZH-q7PJX5",
  "79hVcB1vhh-N775HOzbUo4FyL1K1K7hfgNNvc-rp99amTsl-SbHwhvXNjV5Ii_In9a3v-aFPOn2m8HvMpDIVafPcX14zx8",
  "9zV56Q_4PijmT9EH_lkyupXXfchPvNDzC7dc2oNzv9FrfJ7t4MHZK57xpfO6vws_T0jQ1j4vrPNsGaVPnoOHrvf9mdK1Cz",
  "v-nr3v9xR877ewPbsXdo1nT9Aa6Yd8ViWO5_46ILnc6N52X2B5L9V-XuT_3eeZYf9_z6_AST9hC8w2Dkl8f6ptO8X73FfE",
  "zh-W7aWcKHb-l4LMTNjgqj0lUuPGZKy7l8PyF-KmbVuZ8GFk440GsxcYDBFeyxQqHuzsSRGtjd54YzLQHcdO1AZHTX69-D",
  "9KzBLbDjAr6DzAQdCYbeEpGc665UXejaXJDPQ9lNTt5B8tA4mOJdRu-ERsh11FfGdjewLsiSRbaOR3icE_i8xwk922YXfG",
  "KGutAY2ggXh_y0TozBRYC6rXNJAoVDXs5kuhzt2FwVZgXIE_YTMFcZKWiMha3HqWokpLLexsOuns88kOwoNpFTW5orQ4lb",
  "qm_Wn7Gje8VSa78-VCaXhB_fW69eVoO53d0ceIyq7mLpstCiSSBYq8TjHJuum_FkQkbd3JlqRJ3AfHfatGeQsUDnDCa1JI",
  "UPn5KvILsYs37FaIJo4rwWKMQyxOCt158DFJxT7tKu5tG0xNIbbUoihmcFtUJyVvm3iPoAHyGDZDEcqD7SCcwaixhYI-z7",
  "a7Bood5KZRb1KAMkxzxImY0wmZj5Phc3MMRsMnTMUNstPutF6VUqhs2FHXosNm0WovLDsbZdbrQQqDqBfDF9k0JNmhdvCw",
  "s-jyOx8irEgqL9ITY9AU8ZQ9xqiRNVqw-0uthRQSF25O6pJ0osklCmKbMAQgYT2V7omqA8mORSQgOmNxAaFH088YArJw5E",
  "zc4E5RNWycga6wK0zDlPtaKxRIUfuqaK2ELKA8amVVaUgjm8tYwg4ErI9pl4rPpC5BNSKBX744L6UVzHXGLA2l_ZgMkkla",
  "17N13SIxaazVWZNnvuN7Qup1f1rKMudngbEXYYGMG2KhhaAcBbjUsXf9qajXfh6lbNpu3m2TBSxGvcUoJjcUnr_UbSb2JB",
  "9z4-L8l3P1dr6W29ka50o-Cp9TYdQzmnItKMjbqoIQPUnQF3ULzk5VmVpikWYf4i5F44hgb1SMmKu2QrFjFrUEfShq3Nol",
  "oJkPnVcQNoc7x-QJ0MNqm_cV2FFtiMqgIJkh7xEuvMa8h4FR6YkURLUg1ImjwFXdHg2wry5lwCWBvxIRr1sUXFJUf9bizl",
  "xXI6wdCgU9Q5Iq-G6peV5Hqd77fQP_SEBSCJ0y0qWgEW6lwrNYbgRSXTik_CG7ed1NCZGpDOlKHlvmTFCyN-kP9fZKbXAq",
  "Fg0O7fp1ar5NLObVQFchlhCDFPmAMT1Fn5JHPi_3WzxsrxoqYEWKuqvESV7Ei0slGSy75U5MMxEGu3FFTKeFWx_yXn4wc8",
  "WAGJSnU_KYaC_dqAPtaGFjKQGsz0_POlEJmbBO1XszKu2gAPgoU5KKhM8pqjg4lLxwJXKtyit5sjQNcntk7jboSftT-Pid",
  "HaMKKzCcowv9m2vy89SKmlQctthQH6vwW7LgJQwqEdZ1BIsNoiJYa5ZvRRRSSzjzlPLwCkjA6pzSKDypiooQZETMaEqES3",
  "7gvgsdU6BWyrzssVqcVvJ1xL5BM7Kb8PLMJZUsHyaMbEVlIzTrcWzJDbLEBEuWGZA_jdHRJJwlRaCV7DETtpkLa7IhrETv",
  "X0R7uQXvxcTZQPnrT2MmaW3jJH0I9cia57qZQr2dVOrIKPPSoT5VyX0jUodyGvaoOzqTXsv0oplLkJsjoDqMDHlULJkCAN",
  "5Nh6gJyVw05zfAdhwmCROT-sXK8UtRD8_U5V4lw2EpZByQbQnzg93R6FYyjY-xo2g7IWGoP11Un8pfBssW1wmWrZkCBVYJ",
  "Kaj5iAAQBEHUElqzy83vaz2f_CMm6Lbj9Lg2jvhUchXUDpRexoLBFECWmp75ab-k2YoK_Cy5XPU6aaWq5MIE0NS1F1eDHK",
  "99pbl80fGUvYLbaSVmFGekYzAsLX8Tx8ProzylNvzVbEwBDWq0VgpwTwjC617t5CrHOasUxVLGa8OPUgAn6VUFPcSEIVpP",
  "TNusy0yIJ1SDm-RJCQaJdTyFQmboF01c0AYSPE58GZepW73-IBlhe06yECXB16om0CgskVI8RZmU9Gotem8wPq3JDN-ugj",
  "URkk2QR7LRZSVPSLgKsa0UFcknUa1Yogq8Z4WWdXjPczHTByqViU9kKcSbz_ZeTEXEeOpaMfjrfk-TVj8KQvu0Eh9nh-zj",
  "MMVmyMgUKnKliplFXU_5Mrum_ta4M5juG0RA4MNKkMJ0tTH39JzVWrAdQuWAmu_DQs8abRVQNLVXe10XX1nHUwBIBZ6kQu",
  "YOiXlqez1Qn_5Psn1bJGxUR6LoQ34wLCUCPsRHW9bK8aogddJs-vyUcGHWDXQZVPJhq5dj5nZYQCE9UccR5L8YP48JbRE0",
  "kFgZ2VLvbZyDyLGOVPvuTBwkZOauLzxtQPOVi3TL4fNUFlomgzDNzdzy98w0rMqpoqQ1iMqVv8hGNBZUmQlBhEzF8Zyac0",
  "yFZToQLb3uCol2R4sPeLItxp9gsNkndq0mvK7rBSMEoAZVfbqnE12V-HDTFs_EW1L16boERotHxlMrCwwb0wjbC5gqTNIz",
  "fCLBodbtJJDMhptWfoRcGKSx6dDWG4bEofllkWNZunKENwQ8ey2jguG-dN0uXizung00WQ_FvOlqCp1eU5jk9sM_Oza939",
  "uTLCm1XqsA0p-ujYJW-LM49w9gO2KNyoAmOk592C2XWgWBJulWMLxNi5YL2qoHVa0VClOOEvS1XAzLeo5rt91a5H8CGZra",
  "0pcracyS3aspD1SYMjGVpdLCVV_xCZ6PGbZVzC-mSMtqk1j9DuqOkdQhS8jcRq20VW2CPb7uEuI8Y8xv7vXMeau4UtabVC",
  "_aGr3gp-DwtZAft0U0QVkyHkMmc75sl1KqXtoF2fmvPbYMVi8kWtIaKSfzpUhbdJZ-s5JpNrPFSyaOGEWc1XD54rtf_VG1",
  "uZpnkHk2THZ72WcWhJf0VMxhqfoCutRMFAEuYZChytNTrlDdPKwofZaK-8X9XqsqYhJ8slvWuptlkCAKywSpvugiwziFBH",
  "702aeWoMMtIF2jbKISfEIez21o2mTOZ5pLy7FREb2LRavsSFy2vhByMhZj3sM0VLPCYEEF7e3uOM8oIxyy-sLYHXAE7gaR",
  "0W1wZrba_4KZHZXcth7Kndvr24KXHnY4zG8i3QLrSePWxMuul3Xrh_uoRr6TydmlT9K1T9bTysfrlz9TSLzMPJmvUs__pM",
  "7nW5IhVKWqRWqbTXA7bgyY8HbCyjOFBN2flh0Z-D5nBozqsETIXgl8roGx8BQ9KOYf-TNDThZsYlGk35KKa1nGdXchZi8W",
  "j5wNZyFUprgoK1cjsDrfRcB_JUKg44uM5dKz-pnrVe6FKl3Nnnk6GY7G9a0847s1-PfjvrwYTvlbGF7_-TMpXhqG2JBKMW",
  "DWFfiWxEFcEoqG84WWZCwVz6rB9d6NCZ-OSyOMmagNe76dzlebUpteN9d6A6SoMEaRpxxWsV0ZEmE9YQEVWSNcVG22rmMi",
  "ESQ_BctxEuEQK8V2byHPQfvbF_myfSzFR_UbFuPm3PIS1obnfrxy7kdr-d9iIzRiv7Nx5NXJfCMM9IsL8bHs1AENNLvS6I",
  "mlNMyripXxuJoiyaCx19MYcRa-gDZ4d8JyGdN2azkyKRrfvrx0npaRfWd393zS6lM6R26nuHm_2O8FKgkLe3rlwoAUha_e",
  "ZWklvSIJf0gBoVaaaWyge9nWSsu4DZJktgHEaSUpvKxjyRXusNEdvejU2KwQnIRx-QNrnlxSB5dsTjuNfey0GkN4tdwpa4",
  "zlSMou0Nxc7PtPAXVKUgmDkEodGBBcweQpOc5HisR4Ua_G_gQzqHwSI53smbRVyVwWomKZx9jqeEN7qVjrHrPZypDVeAJm",
  "ZI-t1tlpw6_D0weWYGqEVtRJwkFZLqI_f5HwkD1PDEfMhVpw-b7_tNSUyGdrLHVnFhshiUDqRd6DVnGQzy2KiWlkhmlmnk",
  "EuJQ9tztAre0nIgL6wkG7Wnd5mWsoWX6orfPDBuVbDnSbJh1rNi80RROzcPbfNya04GU2NCMsPd-N2CKrr5ob6bjZsxKu4",
  "7NB6Bmo9nZt1eHRCoVdW76J7s8g4s-0ui9-avd0J9cdmZcq-u4kf42Xft4IpVVdiLLedGrsmq1_9l6xr643qusLPjOT_sD",
  "t5sK1iLg99sYeRQqI2KGkaNWleqgqNx2M8wvFYc8aAW5BqSMstlIcKWqVUQOw6lsMluOViU-AvwBt5zD_pXt-67LVOX8D2",
  "nNlnn332Zd2-7-vls0e15iR1_iGJOA2-KFknslEo-QeTBI41c-IpdnwihMCIebAoZDl-PEuOKBaupOaQ9MJzjfNIjAv_UN",
  "6BGi1iEc4LyPzVdmhGdBPFoZkIKfJ9YQtrh4xSQVdSX51iHx31Hp7cZmJnjQ1JbE72nm5nOAuKqrytzPUawQvW50SmYOpg",
  "CBg7XTsWgnQ7USskZNVRZPWUz_o_7r3Kt_68_-PziyMO_1RiJMvCg0Tl9DuHQmohpHFaMBiFnag3p7l9sj6aKRxOjeDspl",
  "43W75Vv8PUwGzNaqSqsF3QeLaCPwOmFvDKqkHGJjhFRvvwS1USM0Qbkvj3ksjmmLLubhJLl7fSDI5rCL8lkQCTN12VD4ys",
  "eoo2caq9oImYNLcgDoTsL1pUwdUbjmtHd0XS2eI_YLoZ8lokW_PBujQYFceMJmpBepJFnb0-YjaRogFW1NQ0eTEzadYZ5z",
  "3qDUrGhjrqiO7EJyuC7-_61FNyOj_ZnbWTBP5fKxzNKZgzrCen_YHvYHQH2DEF7t1nw9eS2mVHAfOJ-gGMk-P1xsrVbTBG",
  "mWOGcAf9BfE1om7pE7MNFrmLVufpEeyQsbCKk1OaRQhF92pqdCysW1F7ltMkJJuZO22oPPrQeLPEhAtJkCuZPBeeE_2w2M",
  "OsHiWywnnhei-NeD_0Sck0U5uKdzCykvu2vRapBYqwOFFsyEtSodCihd36bgWk5C3jUHeTgi-ZZkL9kmNqwApwRU9VYYdC",
  "9QCVB5iQteNuz9OocJXBYgs7u5Puq58d_RQmTLDLqTRKiKKph-DthxQlzUFNAzPb07CHc1j2EYyg5cg_J704c8tZ3VHHjV",
  "hUMHERNcX3zJN1pHiHl884Hg2JFgqfN4UHmGJC1u2--IA-TkobZN6LFiXSI0E-dgcrFU9gjG1w9CxAzEE7x_MpLCAOTyvc",
  "TBLtsygMc734cG7o5mgiVOJx2QrgtoSzLRE2ljgVVm9aVeDYsCCOX31VT1N_PC6HHZug5HlsrAU5LmEDoc0Xt9_pDsrIl7",
  "xsI6Q0nSyhCHggY4fUS8HR0l4mIRjLWxthPqpAODUsuRhZ0hQomp51ilTEt1R0mSBEQmEk0ralFXCczNNS6NJZ7o86um7H",
  "Gq7eqBJmSpMoQTXHCqdJz_zyow_y6fPrHihKkIe0MrWKdrQ51W6HZWXjGRImVbUynGeFFLPkjEuNKgfyAkTsrrt6PJ-dxa",
  "O3VLRSzjtD71iwy9XLMt0Cp9zHakLKTo5Isgxxb-79ojiv67anod33gn_EpygdZvTWsJRM6i3M5K5j18lXBqd1rD_PItcQ",
  "vponvmjWHVCa_L6l4a0uDm9TLOqPZTx5Tgit2qDksyget9xz7_3dwlSR79II25ue9rwLYFzsXJkIyz8U7FVRrpaFrVXsgr",
  "NqukMfbPuJlkKJJNbRypCKPlVbw3hzZsTynJ-fP9c40IgbRRGUQfTStGcpRRUmNhIvti_BgrCAnXiK6hEVXfHcSkgVIMVd",
  "andDV2addmMeEbbtmf8kH3oDTR6y4I13oUNEbUrUx8peoHkGycAJwRjORq3bYkYtEwTPdzcSOWaUKdnYfCXb6lrDCa1Gs-",
  "Tk6KEFTwGGhV5y7SK7riw1vtQg_-frJZIzlhpjjRAjZzUvk8ex8k7siq6fec2UkLvMSEqhSKXDaRFXYINflElk7yltkghb",
  "M9RbOOXaRIct9iyN2Iv04ZHm0qCZWOhNpZePHduf7d_cLzjy1JciBaxh2P6Q5JtK8hRvzFcrcjGr-ZsdBBm0QiOPi1OLNR",
  "I3Ze4S6W7lFipJLs-ml492SXn3q6LHJDmwjukwoBrYaGEGAxGgKaPPfht7Ac7Hw3_hbKTNw1l5xYtiwTQTKs-WQqHJZvsM",
  "STvJqsJXM4FHrU91CjV2XiGCJfymeRbIyVyZ_1fYQF1QkSxjHXTW0hskR5gmpcmyVlQ0VZZZ8ic6R2O07sP5OQtQee2ydD",
  "YL0PeS8ZOvlmp2eyLakiHxFPaQZfaVVQl037763Yu8uTu28uiGskBN0Ip9JlkLWRQheN7VXYATcqE-f3_hyKKSv-C_t0IN",
  "eV5hy9XJwQJx41Un83T3sYTXdwj7z2war3cJu1x-M-ve8Sz0l_k3oNOBRwfO-yVYCBSB7z_bBY78uWDk9zwqPX_6T8ai__",
  "_3iAGgtPnmq9c74BhgFgR3Zf78unAvgG8Av-0xOl5Q3v4O67kHhAd_Bny6Y17Iv5U2iY1gLXABOAz8m7-AdYT4HKjNHfAd",
  "MMacuBHWrI0XwKFftFEBmwRG4wXw8H8Fun0HSPLrMiovwTLwLGD3iTXgMdDoL8ApcTc8HyH1rxkvwxq4IP7z5gLdrbAc0J",
  "WC7P9ekPF7wNdTf17grnYHektuJB7j_38D-y7fs8_--_oOrn4OVoPvBY3257fbbx_-cNl-uqIIIaC4ngDJJXiqgm5j1Jzh",
  "2B4Bd7QJNJki7hRntJ6veZJ_uxtQXIyn2n772KGTvvVXoje5TUFVrTOaSnBPhPG7l7_3pXx2HpgpbuXJ2z1Cd8kzrBEGLF",
  "95Sb73COixrYBk074Qgk37sv72AfBvjwSzteYQZOvht2087xXCDdJvP5wvWC3FgMn9HgAx9pTbxEhu5393Bcl1hVBwcj_G",
  "o93Prezm7zKG7UvBiG0ra46M5yWHZ1snHGK5u3-GfKdtwq_ZZ3uMByRRtGwPckHNcMaEMPkkUqUXOfCbMarrJIVBB8ryKw",
  "qCoe2ONjTJlVLO5WwRzGv9ZG7QBScVgo_C7Jm3xB5liVoxYBwyc9nyjVt5TO5UJRB2okdpvRDSbaCIpEvCtF2U2mrqifx8",
  "Kl3k-KElK33iptLIjvRKohuc924mZ-3Z4UI8nVyU2IiHnzal8fESRoDzHELb8EWdvzY5E1zVYPo325MxCzcbcjrlebuDwc",
  "l-LYJ48ByN1R_Ydp4-NOM1RIgOVHTMpakDMdlBx6zzjkLVV6Phk8f57GzFt-LSb9RyM9QWNAtuQ1ipkxdhkSSqziv22Cws",
  "2WyHqGG0vlrZ0eXrTw-Gc9V-zdYmTteKgLexdjv2VBKMiNZa7tXp3uJikS1InsV9LAYzZFREDLvhVNvVpJHorymhj_qzoh",
  "grxp6hVoLDMx1TVa0UU_GaDBDr5RfQvDdK3hjifEcyr3k2fpKHe7UQzXE3StqC8ECSBtMgECZy0fJuprBWSrkZz3hyaotN",
  "-ashrd7BmfTewsqwu-CEi-ni6PeivsstHi5kWUCpWTbizk1OeEuL37U-bmV1rNy0TLPKFWh-jKwAyvRsaXL9siv1WBkuTi",
  "DGXFzSqub9aFqOzeGArlwyr9YFrEqaAvd1fo-jBKTri-fCgbAUkiqIG5XxU3SVeD6loBcVk3E3a582TWtMFVChHifycmr6",
  "iNPwdka_erPK_SuSyNkwVU5J8T09kbuLJjGnpVtlTGumsi8UTQl5NpUHXynuQFKWXIScfBgyed8uv1FfQYU4zOJiZ9k2Sm",
  "AiS_TVtCv5UxadkYrZ2VWnIy_0iXk5841Q7XyC1el5a0CvCjTA1jEXMXQi7vSDuDEyCbz5hS5Mpq6sizP9ZomlFvMT0str",
  "xy3IFzkiFDpY_mQ4WO6c6ChbsmgwOwyKRl8d7IMmCNPKZVf-xBKVhPaWKP7zKcVL8zOWvDPf6BjyUvZWylaFrdABY0_lOc",
  "t-7CllnYz1LMIFavH-gKHO_Y7VPRzPtXI6D3bRauySBQ-b6FgjO_heysrmKm8yyIlIvSStMp6hYklM96vki4z1iGFM50yK",
  "ZTi0NJzmDjMfpgnmRJw0lUEWMyxHKosf-uIv2twMj0orGnQf26DpYIImYwG6powcDxzf1I7y_1wVZhiiK9lSWqEdx0m1pR",
  "QfNwqvC128I4xVGzeFxkQYfr5WjpRXIAO5L7Q58ukTYWES1hffK2OV-ZsSKxmpiHJt0X31euFQyl29jK88UBaaV0oss-u4",
  "ZXKfLxDHCH3lDlr-BrQnG4516pZS5dyQlqWp28qZw0wsN12z34EZ5itlU9nSbhg_DDMgbeqn9wLpkDCfKPOPEYXZS5GR3B",
  "BaJ6HkWsNH95Ty5aF-_bxyvGw6DhylhKIb_UN7xfdljpen2vlbSlN2WXmNNvAR016dxx0voWVmDLuqhE7bSqK1jp-_UT4i",
  "T__CbEXfKQPMNYwMt3xT7_snzMNr6OdL-vdfoPMSlqFnQqFDP2_oGF5XZip-ovs6f_5OnaGmmA1sE00905e4KRNbHmFXn1",
  "dHUibbNXzFmK--VbKjV0qj9FiHbkOfdxNUQrf1u1vazhN9Rzw3jEduUyfthlIS3VIWoG3HcvZUJzPf4o-6gox-ylh0NnQ1",
  "relucNG9hZfKCMT8QneFeoguvqFv_KGyEm3pWrggTck6uqoN3sY4235yvmwRMpjcpa91tiuvl7TM3D47erHOWBlJIw3Toa",
  "PLbshX6COmbFIuL_r1od7olm5NxCI1rKqfeo2NqVHM8uDPnst9ZEXCSKtHg7vRqpVhpIArW-y3a17xSDCjB_JejqYOdPMh",
  "dLJktlI8T6ZqJm1D2ze_uhNd9smZWm6IqpfnsrnDBsp0qtmqpT4J5tC08rFLKDYd5bpkgmsvUZWR6jqqVd1CJJY00ogioH",
  "eEK_CKt1Dz_BpUjuH1xozWRbVn5-ZQPvcRfI_e0OqHGRCbqtoLOFiLFQgHcrZMq9XcwhfNaEIeHoE4_EjzOGXuTzbb4KRJ",
  "pfLSVXtTOd5MoxYx2J9iNr8DE7todtWc9ZbdXzKMM7UB4DqFYqqiVsfDM1OseHLOD-MynQ4XWUHqaqqvaT4u-B-a7WbNo2",
  "qkFNKq1PDhnzlgh-Sb3u_Nd7IdNsGALqNQSUdXf8-q4MJXT8RBZ0cL-fOzNH5nT1H5qnMN3Y9c6FLzQ1wNLNV5VJ4XnL7w",
  "KWedTNLG6w0zBoeXj9iJ01KpYQZkgIxQmxiFpQHbis02uyqlVtJDHPG-U6wHjbPr0CFZH1PZPOyQ4AeDNAnywvEh50eDdA",
  "TOv9PWIy3WLs3gLrvhzejwT_0cAFpkmDvVYGl_bTnsq46uftY5QRn_iWryt4d-VzNtWwdqfygzgQNk4-jW-Lj4DeMuP4YB",
  "lKCQBQFLfZ_UtS_D90ipxT_UfJCRhDNs_s7W9hfjGGdR68n_0XV1vVFdV_R9JP7D7Y0QWLI9oVRVwcNExpCGh8aoIkr6VF",
  "3PhxkY-9K5Y2y_BQiUpiVppKaqUNWqahpcixA-6gImxv_Awm_8nJ699t7n7HPuVEhmPL6f5557zj5rr73WwdcHr9y_5wd7",
  "By8Pdg8eHt4mNWBg5pwH2QXSvQ8E_AUQ-KfQOgbC7v7_EzIVhORD7zfOd4jm73P-K_b-CxSCSU94DzmBvyGLsIO_csaCFZ",
  "Wh-Yz_4-0tAi96yqKB--LwDvIYlB3YkezEjmQFXuMKvjy8LTq8rBpNOZh96A3fYjVbd_1yf4dfyP3tIV8CpWy3x07cHth6",
  "D9fK7bOTZEceB3TfaOKJLpnBte8Q0i24skH86afHr5-YTMItUmp7uyX7P3v7kjTz-HhvvyOVMpwhaJPxXp97rb670HvTv-",
  "P80Nvb1jxCpHP2L3cFn_E3yTUGzTs536hcKsfWrMXn8jmXm7dDDaUIlrXSOQpjHEhuMtKlL1XLC0MRW6Z0kyu0fsy7X_E4",
  "bADF9EVqWacQFH8zYgDSC39kEjy4OquCrAmSq6vRPBneAnfOM_TXKSXaCwM-XOfLVbzCeJnV3TM7T5aSIzcizkbKDUcaEd",
  "JCtcqtODNKs45iztKEUdhClHi_izyYXO1x_P8WROKhR5-LsnpjrSS3RSONPmQsDXRAqV3QaOZMPk-medPZB73hddS7TuO5",
  "2CxIgDBk51DEjpW_m2yE8-9-EDTSbkURGrk-JdxkskEjdNPXANUSFcdawoY-k6-N-zM_y9uNwNL0hMTrvWJoYEmCsfhpZl",
  "UP6Hg622VpOASij-J64JjYciq6dGJw9NlyiaeBuPIGhARTNG7qVsG76w828nbyaI80qNSmN9MlX3YWxmAsmO6MJlRiMvYz",
  "xlEXXMTlJq2iIlf5XnZ1MCRmzYikBJPQkblGnbHvMV4PSUG4i5dLQFjZvDjmqoOHv33JCQz9vZztrV4pyLmE1N2uugtxf-",
  "3NUIhFrbZcrPRk_AiVPG7jj9kAShy01EMp0-Dg4qgECevn7pfVJaoYtkI4SpgFKwfqSGC8GCkwpkWBnWLdVEXZTXMjuuQI",
  "-LhiakrBVHJIiO790AdMsWpqaZpvD7GVohgL6GMVl0IRM4gj1ABjQkJijcryqFRi0Kki5S9gpkL2ZvOmYrmU9_iIvshH0r",
  "CgQfyxzBo9uz4zndkRIZKForP8YuCWQlTIm32MTGYVaiBkLAw0NOkHJpjhoS3SD0N7lEyHI5MkgOdk68QPUYQqVZjCUJni",
  "JcSsC-06oIqpGdKgKoe-KgbMYFv8rYDmoouIvdiJVLkG7_MB-S8qH4XVA7jWxh_UWmCjHnoFnLzB2JcVWCNecdJx3UQcNp",
  "m06ItWmuTgSL5rvTgpNZ8O0tEONCt2yBSJeM_atcfr5YyLeUfemPHcmtjhEVOLXAm7-gUdbjQou3EhQ8YNFC-sRB9P8nbD",
  "zUiUUMWxvPIkTbswJhyZ8SPSrwMDF72H8XI0daS5SXkLvzAplioSTnBrsnQQ9iD3acXD58yqlBdKc1eKDfe-L1WCJzRPzI",
  "YUlVYb8cMwOHdTXmsb_iAEoVF-BkIkZ3I3nl8vOm75BRYxTX-94_nRkwumzO9Y7Zrbi8b3DSaa02YlyLHSj1uBPKlzqRHd",
  "cIviYnzaTWhu3iI-mr6EtXe_UQvIqnoD2eiJtXOyWs8L7Ex1eMyzNFDLaytKo2smp6fL-klzWLpxWaonu6aDcocMlYAaFU",
  "DNbrhpxDjUJzHUYc3VgkCbKGe-WyRuiO2phqLobkJkgavR4lQQzcM-vvChahYlVHitC8kxtlDFir31o3OLC5d-dfF8po_C",
  "ivbwz7ydYlLRAwaqEvP96GRnaoEG8elUbHNtSFWlyeDixoq46ome6wfFyF1v1yI6IaiSqmkOlam-VsGAxQ2y9rLTtkTlV3",
  "ub4Aq4N0buwvQ0s1KQ-sw-lCaGpobY9nAOz7Na2B7XZKC6ozbRzNZm77iWAiP6kPrJ0CTXibmKXu9VPygmjCsbVTkq1J3o",
  "pMbWYf2xCBWqIlVmvUBDeGEr3LiALnpFKWDsxGxRrhG0W9FzL7IUY7pUu-baumYc-MUERPVG5UhEfNxEPFyrICARFV8Cfb",
  "HubLzac12NS4S99s3ChXmBm953fWWpLK96bkBQyljlnlP43K3WXYdBGWWvvRVTvQ-lrfGQ8LMOO8Zy8tvdicJH0_osxFvY",
  "cNV5FKiE8b84HhvXyHZtiJxfzZJUuxE78XKftIBZG4WQYKFc5S7twgReDFNvWXZRzlolpXjVRSL7km7HckiIW1a11w8iOZ",
  "dAMGCSwEqozrGZ0AwLgqJ7pQCnxvcx4F4RIOyC_EoEiLzqqdGEZaUbd1wMtD4xf5mFSVWhHPWMwpTwcOs5Qh4RQ2kttpcF",
  "zrhCVWWNbKWSVpEGRWIOIq1uAuGR5ciiaigd46NzAVYHsiHcgV33GEHilwQOlXYWLQr8a-XRRopuqDlL5vy4_uVpMFnx_-",
  "bBsFKKwtp112pVooXg3lPhOxmGytmSRl4ShBH1vCqpIXNLOkMJlJ6Z1MJTYM41lPR8yzEVf1TqtqkSTKTPY3TfsU6Iq39Z",
  "uDtdZ_pzk4LAxuy1y9cSrp3rfbWBthHUMVX6qCBxrhJDhKx1Y5SWbB1jjjlqUUUIKsTxl2yFA-5d6XU5nzyfmgsyPgPWl-",
  "1FVDs0MSbVzErESZkWIBnWVnt3LkuSUbE-CfohZlis9ZobM4QIm5PIc8xqy3n7V0bRfPrBf-AxE9dzbQBNlzdfHX7-5hVx",
  "l-EXxj5l6TffsAsYmOR3CN8VZ7fdxIVNXe0E44y_OfxSUNVn4vBGuCrhuvv4XZDhN0-w5z6zysGn_gGfGOV97M7HaOxzsM",
  "oFYwbDW3jdcnZGlF_B1499zfjsxPvelbtIrocwZSC4e4IY_-HwCzDPb4M3_0KwXnK2eyJo8h7Y33vwaNvB-flOaRvm4es3",
  "u3wX4tJGZ_8jtt-Fp9weufwh33pPCQOPNSF7FxnVG8hNP0W2l_PLnsBgfMfEwum27vKtpmtfanr9nmarOaX7D-N19a1hAn",
  "C-2zpwKTuCvte9KO98H5__LiwO8RJixsV9k_y9adLuW7iGG8b957W5L8-W8XfxQo_zFXZ5qt5nW0oOeay8gk9x_MeSNxcu",
  "AfNq2BbnO6WI_KC3eRe72L24ZUw7Sxtu6y7GhSdwDO5pPt2SK_YNc2NbG_l3-iBeGn6OacNAIPFcAksFea2PXtkIgY3z10",
  "AhiDzvbhgWyn8Nc-af2mL7-nSeKynCkIsipsc99cDaxod9MExei39TuNqb6qbH7JH7MTXlqW78ADveDHcazrWtT-Rr7PVI",
  "CCpixscd7IG2ySN14OKm-0ZtttTTTc7-KOq94md3Fy35KYgrTGP4vZKC2OSOr-fPpv3v6OX9Vvuzb-eHwksJtKIftPdu6e",
  "uzpRZUvo8p6yZ8w49py7TzTjgOk0PkvdjSN84bb23hCr83ZnBwDKRfH_nj1PNIUW1KqEi55bbaQjXHtq9qUDcj2ual-__7",
  "yJ0nfKM-TWl-6N9SJ3IXGar_IEvFR6aali04Fsn1qMeR-eYZsl2f-czUQ1zXDarmEB-fB-m5sO2OfjILSoVg1k_OlqPl5o",
  "lTp041NyDiQ2uEFBTCspf-Opf5VEANhVHVJuPPkZN6i6p-n8nLfj-3knYi4zdHdhuUqlfSv4tYaoBS9k5SH0JhoE1ZSQ7H",
  "R1nv5JMMfGRna-ghXzVatXxMs3n-wzyzJ1wn0ZJu76NfXligEtNVREtywisu6uZDnE4Tz_AYT3IqVcejOpnH46yclZw2q0",
  "d39fV4FJDJieuPNqMoNEG0NFGBdmcgqjnh2daBJ7QEHjInhd5rN9ZraZD3ktQbsBXk-qNjZbUV6-k63tIAWhi5e4xbdUgq",
  "m4yVJGR2A8zoznH_xk1FFhKs6hAVnEMvLIslDAJkHwH-thxbGzq9JoKrY8oy7WzEl7SLZrVc4glfZwJEzr0Iy0vk5y2ggF",
  "tLLxOjpfYiDFaUVGWWMPOdottbYVyCmSOVQZKU1WNXlXL5s67TyCLi7OaF7vFBd4qV5K4oMZuWxLrMUGmvqTlRnImebT1E",
  "b0TPmTGydh0xVq5yL1S5CE0cxheigWE9HSR1HWXA-Wd95BhEbhAMKyZaYSw3QGXPkfEDpeJo9b-6PCZhxXOzC7P1fj_DOg",
  "yqBUHAxrS1JlN1j7Aq7Jpy66RsyCTMFOqUCjHK_yn-mNUByJVBFduzlX2vUzWdXZZFYVVHNxfcMLayNCjMwXobrkOKKIoU",
  "p6xV7E5g2k2AwCj7S3BNDNoV_T6ZLozNDYF7Lm0sr1UA74xCXA0CV2CFtrtAh1jtWqqjvGkhC-dX29YyQF7uRc1drveW3D",
  "33oCxSULJxNA5FizzbEQbkk27EM1Jc0WdbVQTBq1y8L8iuuWShMlkHIFGFt93kQ7ceDs-L1R9siVOBcadTXCvUkCSooFng",
  "NupyVJrCXa6_NkI_NeNYaC92MaD6DrWzCEMpQWCbrg2WSQCOhc3qD6gVp4Y-mflofuba5c2K2Q7epIZ4gG5KpSFMe5_Hpj",
  "r0hw6x7Y7rbYTkKIYBNDx4I3yPlahyeJxLas58REOuPBb-YSCSrK5G0Jii1wTpDDzHDnkLjkgogtrl6MnzR08uSB9zv-RT",
  "U3MpIkUzZCRSqBi261a_TuoeU34t0SyTQRrUy3qe7ZMZ0pE9596k41M0aF8arLhPWR2CyaNpRSKLECGFmCcpyIUrnb8HEx",
  "pBqlbfLhnPdbtjpg3i0lnhG3s6jsniTQiZBKG349NYAyR7ZpFmjUMRctZbvwSN4YKm603pegu-NBJPwPrd6cATkW_lRLF2",
  "hxT1JDxnka1YHhUr4L94BoQ1OFLykj9eYFtEhbW63YQZuz59_iZvTQhozHTkY9QofyFbcysnT-qn7RbdqO3CqihneyCCuq",
  "QSO-Vboz43q2eS8wnz5oToLednOY6eZTUh8jvSqF9fe1LHl8FADenIf2xuwqQRFMOCYYp3rlJ3kgGZGYhtg-VgM-c_Ilgl",
  "mc8W_YzcJCQvxvcTqx-bV-96Oegef3dqLo8Ux32pc32pFnIOYehuTwi5Y_4hf0oq1EEuYQ4UPEdZ847u1yhb6cvQqoPMHc",
  "lq08wxHPTRvNORD6KSUepDWBY0KGk7Dg-6g__VdT2_bRVB-Fz_FYs5OBG1naicqG2JpEKACqrAFUicImJaUyet_BxaqeKQ",
  "ulRCVSgHLCMONCVFFEORFX69SBRL8A-0N472BYn_gp2ZnX2zu-NLHD-_n_t2Z77Z75vZaz0qLOor2GRFXZ_iebFjRPo3o7",
  "SBI68zxjjILyrwMVjtSkC3YLkuqvGVRHS0lBqy3f4_uXQTr0phe_AgZlYsxr1CPbHoW9u8WISzX150xgsiuTb1a_WI_Ryv",
  "FYRHUYI0SgnwnX4EOiIog9yB6kgZIbtrwHf6SlcrPkAuYgjRVp4RLapgF_hIeUUtowSQqMEhUQIKh-DeaPmyUA6BPRKXBS",
  "r0lWJ1KsQr17sZaOmQTcdhyOnJYF-ii4eJlzQuaf2wDnKK3W16PvdA8MWzjp5VEw4CXsjVHdtzBfAKlkt0b-ADxb6gHtMt",
  "C-X0QVhMf-_S3t-TzKwQt763yvVwno2fPnm2j2zHFDmEaNvTQ2QN9rFGEHEjJzF3QQpze8xtZAH-YD7Fno9ZkIJDeEI1g5",
  "h9gNo66bFOKx9vOyQWxZ4XNOy51-gTH_Krr8qTnu8zul-446LWjr0-VQea4jash8P1TXDO70dcef2Om1_7xc0UDoV2_BZt",
  "--cxbAt91MX2K2BLMkJf1lCKXJgwddctxxpYHe5NWNakaSrY19jYJ2YHEFU0k0WzQ5mGs8qaMxAa8cIkeTRSEnAEh1s8_B",
  "oaSOEfA4RTZIVwJTCLuBLMCCc2UIO8-_6VwMutMLIVwPZjUTCUkU7ZXEDoXslkXGWMBshjoI1oPnHTlJISuC76iG272DP6",
  "-zzU_YTheNMO5apL2yppGJeK1rTC4jXkvKLpCN61JPeNIEWp8Vy1-l5YwOPlbh_upFVSWkRDptfn-eE8P57n38Pfk9vzfD",
  "zPv1kMv10MP18MDxfD8WJ4tBh-tRh--e_jo_9--MKnnJ_s22-rzItNmbwgluEBztt_6igwR_Qwa-MyLg-YbvNZpRGD4-kJ",
  "Twr4LNQJJ4HmjoWEo0ZFomiRO-wzi33y7FjQNxEheJeToGfMYX3Nt_cJ55NOBcnos4Y9X_mIE34lcbOfpGaPXIapI8Uknx",
  "WlaT_kZN4Dl7Tu2uQR5s_O-KcJE2Qj3nPGlN99cTi1zy28Z7lxwtm7YRa8u9upYCEfCobIv3c66ogP_Ilb1V79QbBwqY-C",
  "UzUh6A8EjBBpaUm3hw8XncQIAoqtiMtw_g0arDi-1Lx-uRXbQBouyrz8jZ2e2LcwZlF5KbaeoiaNiGasF1AwlIaH6614So",
  "OimppuuUXEWQx6aUgL65rqL8F8RmGoywYV1l2EeNV6_Z0zm_X6ufY58-6r7TfOm_XamgmDLp6RiQIeVyrL3q6r04ShG-RI",
  "2IYqBd6TDylmMl63jf62a3StHbONS1r8Z6LGchEtXqUSvc1KOgeFAqLwDO69GtVlNSsvKAxUQ3WZJSB6TpsBVO6ERz-N1J",
  "vI-hLpaGEeOfcz1fTrAyB0Zx4gaDNF9s33u1tVegX2yft7NlD66_cGtX08DnrNtbOUhy7g0U0R-GPXfslAZSS1o14-dUqb",
  "T9sawAry8Z20VPevPoXuVztqMzT76uU6TQ2sSDS-fdVs9C1I762KWos51m0kLc8xaoIAI_9W6HeCupPHnI2JuZc_U_VIoW",
  "lSzmC3whnuUX1IUPhQ7mloPc2FixvnX9s05d1BtR0VMoDXl86pbMLvMBvjZGeSXyVLbA3hbibbXjcHbfuVbOd6dRCcUEDb",
  "9ltul7qCkO1oPCszIIVrwamiwZt2kNUob2UD5a-q_djd-jBL-6w9kw9nV2uoh3edN8WweAD24dTXpLOO-LM202WjW-EVJK",
  "hv6N4inbXCmxI-RJbcUzQBOEp0S5nOjmAjb9XUYEVt1p3OZf0x3QpRcW-R_QS7yYu1tXXTDr2_JxyXXLOx5PWUje7BlIdH",
  "2rOptuFgpWJ0v7CkvcrbOojJQBncU-QQ6fPT2Gjo8AT4ZPUHHEu1tKWTsexGfgQjvHNc8gpLS5qzodlpeK4lzdZCdeY9Ya",
  "Gc9SINJufOu6i_UD7mTkXp89BBfYm2coaKRn8e1prlDFc9Wh-x2mssZGV5qHG7K6rCELr_TgiXvCJvJgr8zNw5FThPgcsI",
  "S0yRbmvKWq37WpwxCSOhAy7y9Ccqv_IQ3Tvt2P-hJYGH"
]

/-- The octets of all words. -/
def wordOctets : Thunk (Array UInt8) :=
  Thunk.mk fun _ =>
    let octets := (Text.Base64Url.decode? (wordDigits.flatMap String.toList)).bind Deflate.decode?
    (octets.getD []).toArray

/-- Where the words of a length begin. -/
def wordStart (length : Nat) : Nat :=
  ((List.range' 4 (length - 4)).zip wordWidths).foldl (fun n w => n + w.1 * Nat.pow 2 w.2) 0

/-- The number of words of a length, as a logarithm. There are none of
lengths below four. -/
def wordWidth? (length : Nat) : Option Nat :=
  if 4 ≤ length then wordWidths[length - 4]? else none

/-- One of the words of a length. -/
def wordAt (length index : Nat) : List UInt8 :=
  let start := wordStart length + index * length
  (wordOctets.get.extract start (start + length)).toList

end Parley.Compression.Brotli
