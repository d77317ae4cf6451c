namespace BlockCode.Text.Emoji

/-- The signs whose names start before `m`, with their characters in hexadecimal. A plus sign marks
those that come in the colours of skin. -/
def signsToL : List String :=
  ["+1=1f44d -1=1f44e 100=1f4af 1234=1f522 1st_place_medal=1f947 2nd_place_medal=1f948",
    "3rd_place_medal=1f949 8ball=1f3b1 __1=1f44e a=1f170 a_button_(blood_type)=1f170 ab=1f18e",
    "ab_button_(blood_type)=1f18e abacus=1f9ee abc=1f524 abcd=1f521 accept=1f251",
    "adhesive_bandage=1fa79 admission_tickets=1f39f adult=1f9d1+ aerial_tramway=1f6a1",
    "airplane=2708 airplane_arrival=1f6ec airplane_arriving=1f6ec airplane_departure=1f6eb",
    "alarm_clock=23f0 alembic=2697 alien=1f47d alien_monster=1f47e ambulance=1f691",
    "american_football=1f3c8 amphora=1f3fa anchor=2693 angel=1f47c anger=1f4a2 anger_symbol=1f4a2",
    "angry=1f620 angry_face=1f620 angry_face_with_horns=1f47f anguished=1f627",
    "anguished_face=1f627 ant=1f41c antenna_bars=1f4f6 anxious_face_with_sweat=1f630 apple=1f34e",
    "aquarius=2652 aries=2648 arrow_backward=25c0 arrow_double_down=23ec arrow_double_up=23eb",
    "arrow_down=2b07 arrow_down_small=1f53d arrow_forward=25b6 arrow_heading_down=2935",
    "arrow_heading_up=2934 arrow_left=2b05 arrow_lower_left=2199 arrow_lower_right=2198",
    "arrow_right=27a1 arrow_right_hook=21aa arrow_up=2b06 arrow_up_down=2195 arrow_up_small=1f53c",
    "arrow_upper_left=2196 arrow_upper_right=2197 arrows_clockwise=1f503",
    "arrows_counterclockwise=1f504 art=1f3a8 articulated_lorry=1f69b artist_palette=1f3a8",
    "astonished=1f632 astonished_face=1f632 athletic_shoe=1f45f atm=1f3e7 atm_sign=1f3e7",
    "atom_symbol=269b auto_rickshaw=1f6fa automobile=1f697 avocado=1f951 axe=1fa93 b=1f171",
    "b_button_(blood_type)=1f171 baby=1f476+ baby_angel=1f47c+ baby_bottle=1f37c baby_chick=1f424",
    "baby_symbol=1f6bc back=1f519 back_arrow=1f519 backhand_index_pointing_down=1f447+",
    "backhand_index_pointing_left=1f448+ backhand_index_pointing_right=1f449+",
    "backhand_index_pointing_up=1f446+ bacon=1f953 badger=1f9a1 badminton=1f3f8",
    "badminton_racquet_and_shuttlecock=1f3f8 bagel=1f96f baggage_claim=1f6c4 baguette_bread=1f956",
    "balance_scale=2696 bald=1f9b2 bald_man=1f468-200d-1f9b2 bald_woman=1f469-200d-1f9b2",
    "ballet_shoes=1fa70 balloon=1f388 ballot_box_with_ballot=1f5f3 ballot_box_with_check=2611",
    "bamboo=1f38d banana=1f34c bangbang=203c banjo=1fa95 bank=1f3e6 bar_chart=1f4ca barber=1f488",
    "barber_pole=1f488 baseball=26be basket=1f9fa basketball=1f3c0 bat=1f987 bath=1f6c0",
    "bathtub=1f6c1 battery=1f50b beach_with_umbrella=1f3d6 beaming_face_with_smiling_eyes=1f601",
    "bear=1f43b bear_face=1f43b bearded_person=1f9d4+ beating_heart=1f493 bed=1f6cf bee=1f41d",
    "beer=1f37a beer_mug=1f37a beers=1f37b beetle=1f41e beginner=1f530 bell=1f514",
    "bell_with_slash=1f515 bellhop_bell=1f6ce bento=1f371 bento_box=1f371 beverage_box=1f9c3",
    "bicycle=1f6b2 bicyclist=1f6b4 bike=1f6b2 bikini=1f459 billed_cap=1f9e2 biohazard=2623",
    "biohazard_sign=2623 bird=1f426 birthday=1f382 birthday_cake=1f382 black_circle=26ab",
    "black_circle_for_record=23fa black_flag=1f3f4 black_heart=1f5a4 black_joker=1f0cf",
    "black_large_square=2b1b black_left__pointing_double_triangle_with_vertical_bar=23ee",
    "black_medium-small_square=25fe black_medium_small_square=25fe black_medium_square=25fc",
    "black_nib=2712 black_right__pointing_double_triangle_with_vertical_bar=23ed",
    "black_right__pointing_triangle_with_double_vertical_bar=23ef black_small_square=25aa",
    "black_square_button=1f532 black_square_for_stop=23f9 blond-haired_man=1f471-200d-2642-fe0f+",
    "blond-haired_person=1f471+ blond-haired_woman=1f471-200d-2640-fe0f+ blossom=1f33c",
    "blowfish=1f421 blue_book=1f4d8 blue_car=1f699 blue_circle=1f535 blue_heart=1f499",
    "blue_square=1f7e6 blush=1f60a boar=1f417 boat=26f5 bomb=1f4a3 bone=1f9b4 book=1f4d6",
    "bookmark=1f516 bookmark_tabs=1f4d1 books=1f4da boom=1f4a5 boot=1f462",
    "bottle_with_popping_cork=1f37e bouquet=1f490 bow=1f647 bow_and_arrow=1f3f9",
    "bowl_with_spoon=1f963 bowling=1f3b3 boxing_glove=1f94a boy=1f466+ brain=1f9e0 bread=1f35e",
    "breast-feeding=1f931+ brick=1f9f1 bride_with_veil=1f470+ bridge_at_night=1f309",
    "briefcase=1f4bc briefs=1fa72 bright_button=1f506 broccoli=1f966 broken_heart=1f494",
    "broom=1f9f9 brown_circle=1f7e4 brown_heart=1f90e brown_square=1f7eb bug=1f41b",
    "building_construction=1f3d7 bulb=1f4a1 bullet_train=1f685 bullettrain_front=1f685",
    "bullettrain_side=1f684 burrito=1f32f bus=1f68c bus_stop=1f68f busstop=1f68f",
    "bust_in_silhouette=1f464 busts_in_silhouette=1f465 butter=1f9c8 butterfly=1f98b cactus=1f335",
    "cake=1f370 calendar=1f4c6 call_me_hand=1f919+ calling=1f4f2 camel=1f42b camera=1f4f7",
    "camera_with_flash=1f4f8 camping=1f3d5 cancer=264b candle=1f56f candy=1f36c canned_food=1f96b",
    "canoe=1f6f6 capital_abcd=1f520 capricorn=2651 car=1f697 card_file_box=1f5c3 card_index=1f4c7",
    "card_index_dividers=1f5c2 carousel_horse=1f3a0 carp_streamer=1f38f carrot=1f955 castle=1f3f0",
    "cat=1f431 cat2=1f408 cat_face=1f431 cat_face_with_tears_of_joy=1f639",
    "cat_face_with_wry_smile=1f63c cd=1f4bf chains=26d3 chair=1fa91 chart=1f4b9",
    "chart_decreasing=1f4c9 chart_increasing=1f4c8 chart_increasing_with_yen=1f4b9",
    "chart_with_downwards_trend=1f4c9 chart_with_upwards_trend=1f4c8 checkered_flag=1f3c1",
    "cheese_wedge=1f9c0 chequered_flag=1f3c1 cherries=1f352 cherry_blossom=1f338 chess_pawn=265f",
    "chestnut=1f330 chicken=1f414 child=1f9d2+ children_crossing=1f6b8 chipmunk=1f43f",
    "chocolate_bar=1f36b chopsticks=1f962 christmas_tree=1f384 church=26ea cigarette=1f6ac",
    "cinema=1f3a6 circled_m=24c2 circus_tent=1f3aa city_sunrise=1f307 city_sunset=1f306",
    "cityscape=1f3d9 cityscape_at_dusk=1f306 cl=1f191 cl_button=1f191 clamp=1f5dc clap=1f44f",
    "clapper=1f3ac clapper_board=1f3ac clapping_hands=1f44f+ classical_building=1f3db",
    "clinking_beer_mugs=1f37b clinking_glasses=1f942 clipboard=1f4cb clock1=1f550 clock10=1f559",
    "clock1030=1f565 clock11=1f55a clock1130=1f566 clock12=1f55b clock1230=1f567 clock130=1f55c",
    "clock2=1f551 clock230=1f55d clock3=1f552 clock330=1f55e clock4=1f553 clock430=1f55f",
    "clock5=1f554 clock530=1f560 clock6=1f555 clock630=1f561 clock7=1f556 clock730=1f562",
    "clock8=1f557 clock830=1f563 clock9=1f558 clock930=1f564 clockwise_vertical_arrows=1f503",
    "closed_book=1f4d5 closed_lock_with_key=1f510 closed_mailbox_with_lowered_flag=1f4ea",
    "closed_mailbox_with_raised_flag=1f4eb closed_umbrella=1f302 cloud=2601",
    "cloud_with_lightning=1f329 cloud_with_lightning_and_rain=26c8 cloud_with_rain=1f327",
    "cloud_with_snow=1f328 cloud_with_tornado=1f32a clown_face=1f921 club_suit=2663 clubs=2663",
    "clutch_bag=1f45d coat=1f9e5 cocktail=1f378 cocktail_glass=1f378 coconut=1f965 coffee=2615",
    "coffin=26b0 cold_face=1f976 cold_sweat=1f630 collision=1f4a5 comet=2604 compass=1f9ed",
    "compression=1f5dc computer=1f4bb computer_disk=1f4bd computer_mouse=1f5b1",
    "confetti_ball=1f38a confounded=1f616 confounded_face=1f616 confused=1f615",
    "confused_face=1f615 congratulations=3297 construction=1f6a7 construction_worker=1f477+",
    "control_knobs=1f39b convenience_store=1f3ea cooked_rice=1f35a cookie=1f36a cooking=1f373",
    "cool=1f192 cool_button=1f192 cop=1f46e copyright=a9 corn=1f33d couch_and_lamp=1f6cb",
    "counterclockwise_arrows_button=1f504 couple=1f46b couple_with_heart=1f491",
    "couple_with_heart_man_man=1f468-200d-2764-fe0f-200d-1f468",
    "couple_with_heart_woman_man=1f469-200d-2764-fe0f-200d-1f468",
    "couple_with_heart_woman_woman=1f469-200d-2764-fe0f-200d-1f469 couplekiss=1f48f cow=1f42e",
    "cow2=1f404 cow_face=1f42e cowboy_hat_face=1f920 crab=1f980 crayon=1f58d credit_card=1f4b3",
    "crescent_moon=1f319 cricket=1f997 cricket_bat_and_ball=1f3cf cricket_game=1f3cf",
    "crocodile=1f40a croissant=1f950 cross_mark=274c cross_mark_button=274e",
    "crossed_fingers=1f91e+ crossed_flags=1f38c crossed_swords=2694 crown=1f451 cry=1f622",
    "crying_cat_face=1f63f crying_face=1f622 crystal_ball=1f52e cucumber=1f952",
    "cup_with_straw=1f964 cupcake=1f9c1 cupid=1f498 curling_stone=1f94c",
    "curly-haired_man=1f468-200d-1f9b1 curly-haired_woman=1f469-200d-1f9b1 curly_hair=1f9b1",
    "curly_loop=27b0 currency_exchange=1f4b1 curry=1f35b curry_rice=1f35b custard=1f36e",
    "customs=1f6c3 cut_of_meat=1f969 cyclone=1f300 dagger=1f5e1 dagger_knife=1f5e1 dancer=1f483",
    "dancers=1f46f dango=1f361 dark_skin_tone=1f3ff dark_sunglasses=1f576 dart=1f3af dash=1f4a8",
    "dashing_away=1f4a8 date=1f4c5 deaf_person=1f9cf deciduous_tree=1f333 deer=1f98c",
    "delivery_truck=1f69a department_store=1f3ec derelict_house=1f3da",
    "derelict_house_building=1f3da desert=1f3dc desert_island=1f3dd desktop_computer=1f5a5",
    "detective=1f575+ diamond_shape_with_a_dot_inside=1f4a0 diamond_suit=2666",
    "diamond_with_a_dot=1f4a0 diamonds=2666 dim_button=1f505 direct_hit=1f3af disappointed=1f61e",
    "disappointed_face=1f61e disappointed_relieved=1f625 diving_mask=1f93f diya_lamp=1fa94",
    "dizzy=1f4ab dizzy_face=1f635 dna=1f9ec do_not_litter=1f6af dog=1f436 dog2=1f415",
    "dog_face=1f436 dollar=1f4b5 dollar_banknote=1f4b5 dolls=1f38e dolphin=1f42c door=1f6aa",
    "dotted_six-pointed_star=1f52f double_curly_loop=27bf double_exclamation_mark=203c",
    "double_vertical_bar=23f8 doughnut=1f369 dove=1f54a dove_of_peace=1f54a down-left_arrow=2199",
    "down-right_arrow=2198 down_arrow=2b07 downcast_face_with_sweat=1f613 downwards_button=1f53d",
    "dragon=1f409 dragon_face=1f432 dress=1f457 dromedary_camel=1f42a drooling_face=1f924",
    "drop_of_blood=1fa78 droplet=1f4a7 drum=1f941 duck=1f986 dumpling=1f95f dvd=1f4c0",
    "e-mail=1f4e7 e__mail=1f4e7 eagle=1f985 ear=1f442+ ear_of_corn=1f33d ear_of_rice=1f33e",
    "ear_with_hearing_aid=1f9bb earth_africa=1f30d earth_americas=1f30e earth_asia=1f30f",
    "egg=1f373 eggplant=1f346 eight=38-fe0f-20e3 eight-pointed_star=2734",
    "eight-spoked_asterisk=2733 eight-thirty=1f563 eight_o’clock=1f557",
    "eight_pointed_black_star=2734 eight_spoked_asterisk=2733 eject_button=23cf eject_symbol=23cf",
    "electric_plug=1f50c elephant=1f418 eleven-thirty=1f566 eleven_o’clock=1f55a elf=1f9dd+",
    "email=2709 emoji_modifier_fitzpatrick_type__1__2=1f3fb",
    "emoji_modifier_fitzpatrick_type__3=1f3fc emoji_modifier_fitzpatrick_type__4=1f3fd",
    "emoji_modifier_fitzpatrick_type__5=1f3fe emoji_modifier_fitzpatrick_type__6=1f3ff end=1f51a",
    "end_arrow=1f51a england=1f3f4-e0067-e0062-e0065-e006e-e0067-e007f envelope=2709",
    "envelope_with_arrow=1f4e9 euro=1f4b6 euro_banknote=1f4b6 european_castle=1f3f0",
    "european_post_office=1f3e4 evergreen_tree=1f332 ewe=1f411 exclamation=2757",
    "exclamation_mark=2757 exclamation_question_mark=2049 exploding_head=1f92f",
    "expressionless=1f611 expressionless_face=1f611 eye=1f441",
    "eye_in_speech_bubble=1f441-fe0f-200d-1f5e8-fe0f eyeglasses=1f453 eyes=1f440",
    "face_blowing_a_kiss=1f618 face_savoring_food=1f60b face_screaming_in_fear=1f631",
    "face_vomiting=1f92e face_with_hand_over_mouth=1f92d face_with_head-bandage=1f915",
    "face_with_head__bandage=1f915 face_with_medical_mask=1f637 face_with_monocle=1f9d0",
    "face_with_open_mouth=1f62e face_with_raised_eyebrow=1f928 face_with_rolling_eyes=1f644",
    "face_with_steam_from_nose=1f624 face_with_symbols_on_mouth=1f92c",
    "face_with_tears_of_joy=1f602 face_with_thermometer=1f912 face_with_tongue=1f61b",
    "face_without_mouth=1f636 facepunch=1f44a factory=1f3ed fairy=1f9da+ falafel=1f9c6",
    "fallen_leaf=1f342 family=1f46a family_man_boy=1f468-200d-1f466",
    "family_man_boy_boy=1f468-200d-1f466-200d-1f466 family_man_girl=1f468-200d-1f467",
    "family_man_girl_boy=1f468-200d-1f467-200d-1f466",
    "family_man_girl_girl=1f468-200d-1f467-200d-1f467",
    "family_man_man_boy=1f468-200d-1f468-200d-1f466",
    "family_man_man_boy_boy=1f468-200d-1f468-200d-1f466-200d-1f466",
    "family_man_man_girl=1f468-200d-1f468-200d-1f467",
    "family_man_man_girl_boy=1f468-200d-1f468-200d-1f467-200d-1f466",
    "family_man_man_girl_girl=1f468-200d-1f468-200d-1f467-200d-1f467",
    "family_man_woman_boy=1f468-200d-1f469-200d-1f466",
    "family_man_woman_boy_boy=1f468-200d-1f469-200d-1f466-200d-1f466",
    "family_man_woman_girl=1f468-200d-1f469-200d-1f467",
    "family_man_woman_girl_boy=1f468-200d-1f469-200d-1f467-200d-1f466",
    "family_man_woman_girl_girl=1f468-200d-1f469-200d-1f467-200d-1f467",
    "family_woman_boy=1f469-200d-1f466 family_woman_boy_boy=1f469-200d-1f466-200d-1f466",
    "family_woman_girl=1f469-200d-1f467 family_woman_girl_boy=1f469-200d-1f467-200d-1f466",
    "family_woman_girl_girl=1f469-200d-1f467-200d-1f467",
    "family_woman_woman_boy=1f469-200d-1f469-200d-1f466",
    "family_woman_woman_boy_boy=1f469-200d-1f469-200d-1f466-200d-1f466",
    "family_woman_woman_girl=1f469-200d-1f469-200d-1f467",
    "family_woman_woman_girl_boy=1f469-200d-1f469-200d-1f467-200d-1f466",
    "family_woman_woman_girl_girl=1f469-200d-1f469-200d-1f467-200d-1f467 fast-forward_button=23e9",
    "fast_down_button=23ec fast_forward=23e9 fast_reverse_button=23ea fast_up_button=23eb",
    "fax=1f4e0 fax_machine=1f4e0 fearful=1f628 fearful_face=1f628 feet=1f43e female_sign=2640",
    "ferris_wheel=1f3a1 ferry=26f4 field_hockey=1f3d1 field_hockey_stick_and_ball=1f3d1",
    "file_cabinet=1f5c4 file_folder=1f4c1 film_frames=1f39e film_projector=1f4fd fire=1f525",
    "fire_engine=1f692 fire_extinguisher=1f9ef firecracker=1f9e8 fireworks=1f386",
    "first_quarter_moon=1f313 first_quarter_moon_face=1f31b first_quarter_moon_with_face=1f31b",
    "fish=1f41f fish_cake=1f365 fish_cake_with_swirl=1f365 fishing_pole=1f3a3",
    "fishing_pole_and_fish=1f3a3 fist=270a five=35-fe0f-20e3 five-thirty=1f560 five_o’clock=1f554",
    "flag_in_hole=26f3 flags=1f38f flamingo=1f9a9 flashlight=1f526 flat_shoe=1f97f",
    "fleur-de-lis=269c fleur__de__lis=269c flexed_biceps=1f4aa+ flipper=1f42c floppy_disk=1f4be",
    "flower_playing_cards=1f3b4 flushed=1f633 flushed_face=1f633 flying_disc=1f94f",
    "flying_saucer=1f6f8 fog=1f32b foggy=1f301 folded_hands=1f64f+ foot=1f9b6 football=1f3c8",
    "footprints=1f463 fork_and_knife=1f374 fork_and_knife_with_plate=1f37d fortune_cookie=1f960",
    "fountain=26f2 fountain_pen=1f58b four=34-fe0f-20e3 four-thirty=1f55f four_leaf_clover=1f340",
    "four_o’clock=1f553 fox_face=1f98a frame_with_picture=1f5bc framed_picture=1f5bc free=1f193",
    "free_button=1f193 french_fries=1f35f fried_shrimp=1f364 fries=1f35f frog=1f438",
    "frog_face=1f438 front-facing_baby_chick=1f425 frowning=1f626 frowning_face=2639",
    "frowning_face_with_open_mouth=1f626 fuel_pump=26fd fuelpump=26fd full_moon=1f315",
    "full_moon_face=1f31d full_moon_with_face=1f31d funeral_urn=26b1 game_die=1f3b2 garlic=1f9c4",
    "gear=2699 gem=1f48e gem_stone=1f48e gemini=264a genie=1f9de ghost=1f47b gift=1f381",
    "gift_heart=1f49d giraffe=1f992 girl=1f467+ glass_of_milk=1f95b glasses=1f453",
    "globe_showing_americas=1f30e globe_showing_asia-australia=1f30f",
    "globe_showing_europe-africa=1f30d globe_with_meridians=1f310 gloves=1f9e4 glowing_star=1f31f",
    "goal_net=1f945 goat=1f410 goblin=1f47a goggles=1f97d golf=26f3 golfer=1f3cc gorilla=1f98d",
    "graduation_cap=1f393 grapes=1f347 green_apple=1f34f green_book=1f4d7 green_circle=1f7e2",
    "green_heart=1f49a green_salad=1f957 green_square=1f7e9 grey_exclamation=2755",
    "grey_question=2754 grimacing=1f62c grimacing_face=1f62c grin=1f601 grinning=1f600",
    "grinning_cat_face=1f63a grinning_cat_face_with_smiling_eyes=1f638 grinning_face=1f600",
    "grinning_face_with_big_eyes=1f603 grinning_face_with_smiling_eyes=1f604",
    "grinning_face_with_sweat=1f605 grinning_squinting_face=1f606 growing_heart=1f497",
    "guard=1f482+ guardsman=1f482 guide_dog=1f9ae guitar=1f3b8 gun=1f52b haircut=1f487",
    "hamburger=1f354 hammer=1f528 hammer_and_pick=2692 hammer_and_wrench=1f6e0 hamster=1f439",
    "hamster_face=1f439 hand=270b hand_with_fingers_splayed=1f590+ handbag=1f45c handshake=1f91d",
    "hankey=1f4a9 hatched_chick=1f425 hatching_chick=1f423 headphone=1f3a7 headphones=1f3a7",
    "hear-no-evil_monkey=1f649 hear_no_evil=1f649 heart=2764 heart_decoration=1f49f",
    "heart_eyes=1f60d heart_eyes_cat=1f63b heart_suit=2665 heart_with_arrow=1f498",
    "heart_with_ribbon=1f49d heartbeat=1f493 heartpulse=1f497 hearts=2665 heavy_check_mark=2714",
    "heavy_division_sign=2797 heavy_dollar_sign=1f4b2 heavy_exclamation_mark=2757",
    "heavy_heart_exclamation=2763 heavy_heart_exclamation_mark_ornament=2763",
    "heavy_large_circle=2b55 heavy_minus_sign=2796 heavy_multiplication_x=2716",
    "heavy_plus_sign=2795 hedgehog=1f994 helicopter=1f681 helm_symbol=2388",
    "helmet_with_white_cross=26d1 herb=1f33f hibiscus=1f33a high-heeled_shoe=1f460",
    "high-speed_train=1f684 high_brightness=1f506 high_heel=1f460 high_voltage=26a1",
    "hiking_boot=1f97e hindu_temple=1f6d5 hippopotamus=1f99b hocho=1f52a hole=1f573",
    "honey_pot=1f36f honeybee=1f41d horizontal_traffic_light=1f6a5 horse=1f434 horse_face=1f434",
    "horse_racing=1f3c7+ hospital=1f3e5 hot_beverage=2615 hot_dog=1f32d hot_face=1f975",
    "hot_pepper=1f336 hot_springs=2668 hotel=1f3e8 hotsprings=2668 hourglass=231b",
    "hourglass_done=231b hourglass_flowing_sand=23f3 hourglass_not_done=23f3 house=1f3e0",
    "house_buildings=1f3d8 house_with_garden=1f3e1 houses=1f3d8 hugging_face=1f917",
    "hundred_points=1f4af hushed=1f62f hushed_face=1f62f ice=1f9ca ice_cream=1f368",
    "ice_hockey=1f3d2 ice_hockey_stick_and_puck=1f3d2 ice_skate=26f8 icecream=1f366 id=1f194",
    "id_button=1f194 ideograph_advantage=1f250 imp=1f47f inbox_tray=1f4e5 incoming_envelope=1f4e8",
    "index_pointing_up=261d+ infinity=267e information=2139 information_desk_person=1f481",
    "information_source=2139 innocent=1f607 input_latin_letters=1f524 input_latin_lowercase=1f521",
    "input_latin_uppercase=1f520 input_numbers=1f522 input_symbols=1f523 interrobang=2049",
    "iphone=1f4f1 izakaya_lantern=1f3ee jack-o-lantern=1f383 jack_o_lantern=1f383 japan=1f5fe",
    "japanese_acceptable_button=1f251 japanese_application_button=1f238",
    "japanese_bargain_button=1f250 japanese_castle=1f3ef japanese_congratulations_button=3297",
    "japanese_discount_button=1f239 japanese_dolls=1f38e japanese_free_of_charge_button=1f21a",
    "japanese_goblin=1f47a japanese_here_button=1f201 japanese_monthly_amount_button=1f237",
    "japanese_no_vacancy_button=1f235 japanese_not_free_of_charge_button=1f236",
    "japanese_ogre=1f479 japanese_open_for_business_button=1f23a",
    "japanese_passing_grade_button=1f234 japanese_post_office=1f3e3",
    "japanese_prohibited_button=1f232 japanese_reserved_button=1f22f japanese_secret_button=3299",
    "japanese_service_charge_button=1f202 japanese_symbol_for_beginner=1f530",
    "japanese_vacancy_button=1f233 jeans=1f456 jigsaw=1f9e9 joker=1f0cf joy=1f602 joy_cat=1f639",
    "joystick=1f579 kaaba=1f54b kangaroo=1f998 key=1f511 keyboard=2328 keycap_#=23-fe0f-20e3",
    "keycap_*=2a-fe0f-20e3 keycap_0=30-fe0f-20e3 keycap_1=31-fe0f-20e3 keycap_10=1f51f",
    "keycap_2=32-fe0f-20e3 keycap_3=33-fe0f-20e3 keycap_4=34-fe0f-20e3 keycap_5=35-fe0f-20e3",
    "keycap_6=36-fe0f-20e3 keycap_7=37-fe0f-20e3 keycap_8=38-fe0f-20e3 keycap_9=39-fe0f-20e3",
    "keycap_asterisk=2a-20e3 keycap_digit_eight=38-20e3 keycap_digit_five=35-20e3",
    "keycap_digit_four=34-20e3 keycap_digit_nine=39-20e3 keycap_digit_one=31-20e3",
    "keycap_digit_seven=37-20e3 keycap_digit_six=36-20e3 keycap_digit_three=33-20e3",
    "keycap_digit_two=32-20e3 keycap_digit_zero=30-20e3 keycap_number_sign=23-20e3",
    "kick_scooter=1f6f4 kimono=1f458 kiss=1f48b",
    "kiss_man_man=1f468-200d-2764-fe0f-200d-1f48b-200d-1f468 kiss_mark=1f48b",
    "kiss_woman_man=1f469-200d-2764-fe0f-200d-1f48b-200d-1f468",
    "kiss_woman_woman=1f469-200d-2764-fe0f-200d-1f48b-200d-1f469 kissing=1f617 kissing_cat=1f63d",
    "kissing_cat_face=1f63d kissing_closed_eyes=1f61a kissing_face=1f617",
    "kissing_face_with_closed_eyes=1f61a kissing_face_with_smiling_eyes=1f619 kissing_heart=1f618",
    "kissing_smiling_eyes=1f619 kitchen_knife=1f52a kite=1fa81 kiwi_fruit=1f95d knife=1f52a",
    "koala=1f428 koko=1f201 lab_coat=1f97c label=1f3f7 lacrosse=1f94d lady_beetle=1f41e",
    "lantern=1f3ee laptop_computer=1f4bb large_blue_circle=1f535 large_blue_diamond=1f537",
    "large_orange_diamond=1f536 last_quarter_moon=1f317 last_quarter_moon_face=1f31c",
    "last_quarter_moon_with_face=1f31c last_track_button=23ee latin_cross=271d laughing=1f606",
    "leaf_fluttering_in_wind=1f343 leafy_green=1f96c leaves=1f343 ledger=1f4d2",
    "left-facing_fist=1f91b+ left-right_arrow=2194 left_arrow=2b05 left_arrow_curving_right=21aa",
    "left_luggage=1f6c5 left_right_arrow=2194 left_speech_bubble=1f5e8",
    "leftwards_arrow_with_hook=21a9 leg=1f9b5 lemon=1f34b leo=264c leopard=1f406",
    "level_slider=1f39a libra=264e light_bulb=1f4a1 light_rail=1f688 light_skin_tone=1f3fb",
    "link=1f517 linked_paperclips=1f587 lion_face=1f981 lips=1f444 lipstick=1f484",
    "litter_in_bin_sign=1f6ae lizard=1f98e llama=1f999 lobster=1f99e lock=1f512",
    "lock_with_ink_pen=1f50f locked=1f512 locked_with_key=1f510 locked_with_pen=1f50f",
    "locomotive=1f682 lollipop=1f36d loop=27bf lotion_bottle=1f9f4 loud_sound=1f50a",
    "loudly_crying_face=1f62d loudspeaker=1f4e2 love-you_gesture=1f91f+ love_hotel=1f3e9",
    "love_letter=1f48c low_brightness=1f505 lower_left_ballpoint_pen=1f58a",
    "lower_left_crayon=1f58d lower_left_fountain_pen=1f58b lower_left_paintbrush=1f58c",
    "luggage=1f9f3 lying_face=1f925"]

end BlockCode.Text.Emoji
